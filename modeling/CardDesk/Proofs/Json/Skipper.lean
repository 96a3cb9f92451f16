import CardDesk.Proofs.Json.Shape

/-!
Values passed over unread. The skipper goes over whatever has the shape of a value, however deep, to
its end, and over nothing else.
-/

namespace CardDesk.Json

theorem isSome_shortEscape?_iff {b : UInt8} :
    (shortEscape? b).isSome = true ↔ ∃ c, (b, c) ∈ shortEscapes := by
  rw [Option.isSome_iff_exists]
  simp only [shortEscape?_eq_some_iff]
  constructor
  · rintro ⟨-, d, hd, -⟩
    exact ⟨d, hd⟩
  · rintro ⟨d, hd⟩
    have hone : ∃ c, String.utf8EncodeChar d = [c] := by
      simp only [shortEscapes, List.mem_cons, Prod.mk.injEq, List.not_mem_nil, or_false] at hd
      rcases hd with ⟨-, rfl⟩ | ⟨-, rfl⟩ | ⟨-, rfl⟩ | ⟨-, rfl⟩ | ⟨-, rfl⟩ | ⟨-, rfl⟩ | ⟨-, rfl⟩ |
        ⟨-, rfl⟩ <;> exact ⟨_, rfl⟩
    obtain ⟨c, hc⟩ := hone
    exact ⟨c, d, hd, hc⟩

theorem Quotable.skipText {raw : Bytes} (h : Quotable raw) (r : Bytes) :
    Json.skipText (raw ++ 0x22 :: r) = .ok r := by
  have hquote : (0x22 : UInt8) = quoteMark := rfl
  have hslash : (0x5C : UInt8) = backslash := rfl
  have hne : backslash ≠ quoteMark := by decide
  induction h with
  | nil =>
    rw [List.nil_append, hquote, Json.skipText.eq_def]
    simp only [if_true]
  | byte hquote hbackslash hcontrol _ ih =>
    rw [List.cons_append, Json.skipText.eq_def]
    simp only [hquote, hbackslash, hcontrol, if_false, ih]
  | @short letter c raw hletter _ ih =>
    have hu : letter ≠ 0x75 := by
      rintro rfl
      simp [shortEscapes] at hletter
    have hsome := isSome_shortEscape?_iff.mpr ⟨c, hletter⟩
    rw [List.cons_append, List.cons_append, hslash, Json.skipText.eq_def]
    simp only [hne, hu, hsome, if_true, if_false, ih]
  | @hex ds raw n hds _ ih =>
    have hhex := readHex_eq_ok_iff.mpr ⟨ds, hds, (rfl : _ = ds ++ (raw ++ 0x22 :: r))⟩
    rw [List.append_assoc, List.cons_append, List.cons_append, hslash, Json.skipText.eq_def]
    simp only [hne, if_true, if_false]
    split
    · rename_i f hf
      rw [hhex] at hf
      cases hf
    · rename_i m r' hr'
      rw [hhex] at hr'
      cases hr'
      exact ih

theorem skipText_eq_ok_iff {s r : Bytes} :
    skipText s = .ok r ↔ ∃ raw, Quotable raw ∧ s = raw ++ 0x22 :: r := by
  constructor
  · intro h
    fun_induction skipText s with
    | case1 => cases h
    | case2 s =>
      cases h
      exact ⟨[], .nil, rfl⟩
    | case3 => cases h
    | case4 => cases h
    | case5 s n s' hhex _ _ ih =>
      obtain ⟨raw, hraw, rfl⟩ := ih h
      obtain ⟨ds, hds, rfl⟩ := readHex_eq_ok_iff.mp hhex
      exact ⟨_, .hex hds hraw, by simp [backslash]⟩
    | case6 letter s hu hsome _ ih =>
      obtain ⟨raw, hraw, rfl⟩ := ih h
      obtain ⟨c, hc⟩ := isSome_shortEscape?_iff.mp hsome
      exact ⟨_, .short hc hraw, rfl⟩
    | case7 => cases h
    | case8 => cases h
    | case9 b s hquote hbackslash hcontrol ih =>
      obtain ⟨raw, hraw, rfl⟩ := ih h
      exact ⟨_, .byte hquote hbackslash hcontrol hraw, rfl⟩
  · rintro ⟨raw, h, rfl⟩
    exact h.skipText r

theorem exists_dropDigits (s : Bytes) :
    ∃ ds, (∀ b ∈ ds, 0x30 ≤ b ∧ b ≤ 0x39) ∧ s = ds ++ dropDigits s := by
  induction s with
  | nil => exact ⟨[], by simp, rfl⟩
  | cons b s ih =>
    rw [dropDigits]
    split
    · rename_i hb
      obtain ⟨ds, hds, hs⟩ := ih
      exact ⟨b :: ds, List.forall_mem_cons.mpr ⟨isDigit_iff.mp hb, hds⟩, congrArg (b :: ·) hs⟩
    · exact ⟨[], by simp, rfl⟩

theorem dropDigits_append {ds r : Bytes} (hds : ∀ b ∈ ds, 0x30 ≤ b ∧ b ≤ 0x39)
    (hr : ∀ b ∈ r.head?, isDigit b = false) : dropDigits (ds ++ r) = r := by
  induction ds with
  | nil =>
    cases r with
    | nil => rfl
    | cons b r =>
      have hb := hr b rfl
      simp [dropDigits, hb]
  | cons b ds ih =>
    obtain ⟨hb, hds⟩ := List.forall_mem_cons.mp hds
    rw [List.cons_append, dropDigits, if_pos (isDigit_iff.mpr hb)]
    exact ih hds

theorem exists_digits {b : UInt8} {s : Bytes} (hb : isDigit b = true) :
    ∃ ds, Digits ds ∧ b :: s = ds ++ dropDigits s := by
  obtain ⟨ds, hds, hs⟩ := exists_dropDigits s
  refine ⟨b :: ds, ⟨by simp, List.forall_mem_cons.mpr ⟨isDigit_iff.mp hb, hds⟩⟩, ?_⟩
  exact congrArg (b :: ·) hs

structure IsExponent (exponent : Option (Bytes × Bytes)) : Prop where
  mark : ∀ x ∈ exponent,
    x.1 ∈ [[0x65], [0x65, 0x2B], [0x65, 0x2D], [0x45], [0x45, 0x2B], [0x45, 0x2D]]
  digits : ∀ x ∈ exponent, Digits x.2

def exponentBytes (exponent : Option (Bytes × Bytes)) : Bytes :=
  exponent.elim [] fun x => x.1 ++ x.2

theorem skipExponent_sound {e : UInt8} {s r : Bytes} (he : isExponentMark e = true)
    (h : skipExponent s = .ok r) :
    ∃ exponent, IsExponent exponent ∧ e :: s = exponentBytes exponent ++ r := by
  unfold skipExponent at h
  dsimp only at h
  split at h
  · cases h
  rename_i b u ht
  have hsign : ∃ sign, (sign = [] ∨ sign = [0x2B] ∨ sign = [0x2D]) ∧ s = sign ++ b :: u := by
    split at ht
    · exact ⟨[0x2B], .inr (.inl rfl), by rw [ht]; rfl⟩
    · exact ⟨[0x2D], .inr (.inr rfl), by rw [ht]; rfl⟩
    · exact ⟨[], .inl rfl, ht⟩
  obtain ⟨sign, hsign, rfl⟩ := hsign
  split at h
  · rename_i hb
    cases h
    obtain ⟨ds, hds, hu⟩ := exists_digits (s := u) hb
    refine ⟨some (e :: sign, ds), ⟨?_, by simpa using hds⟩, ?_⟩
    · rcases isExponentMark_iff.mp he with rfl | rfl <;>
        rcases hsign with rfl | rfl | rfl <;> simp
    · rw [hu]
      simp [exponentBytes]
  · cases h

theorem IsExponent.none : IsExponent none where
  mark := by simp
  digits := by simp

theorem skipAfterDigits_sound {s r : Bytes} (h : skipAfterDigits s = .ok r) :
    ∃ exponent, IsExponent exponent ∧ s = exponentBytes exponent ++ r := by
  unfold skipAfterDigits at h
  split at h
  · cases h
    exact ⟨none, .none, rfl⟩
  split at h
  · rename_i he
    exact skipExponent_sound he h
  · cases h
    exact ⟨none, .none, rfl⟩

theorem skipAfterWhole_sound {s r : Bytes} (h : skipAfterWhole s = .ok r) :
    ∃ (fraction : Option Bytes) (exponent : Option (Bytes × Bytes)),
      (∀ ds ∈ fraction, Digits ds) ∧ IsExponent exponent ∧
        s = fraction.elim [] (0x2E :: ·) ++ exponentBytes exponent ++ r := by
  unfold skipAfterWhole at h
  split at h
  · cases h
    exact ⟨none, none, by simp, .none, rfl⟩
  split at h
  · rename_i hpoint
    split at h
    · cases h
    rename_i c t
    split at h
    · rename_i hc
      obtain ⟨ds, hds, ht⟩ := exists_digits (s := t) hc
      obtain ⟨exponent, hexponent, hrest⟩ := skipAfterDigits_sound h
      refine ⟨some ds, exponent, by simpa using hds, hexponent, ?_⟩
      rw [hpoint, ht, hrest]
      simp
    · cases h
  split at h
  · rename_i he
    obtain ⟨exponent, hexponent, hs⟩ := skipExponent_sound he h
    exact ⟨none, exponent, by simp, hexponent, hs⟩
  · cases h
    exact ⟨none, none, by simp, .none, rfl⟩

theorem skipNumber_sound {s r : Bytes} (h : skipNumber s = .ok r) (negative : Bool) :
    ∃ l : Literal, l.negative = negative ∧ s = l.unsigned ++ r := by
  have hmake {ds t : Bytes} (hds : Digits ds) (hplain : ds.head? = some 0x30 → ds = [0x30])
      (hs : s = ds ++ t) (ht : skipAfterWhole t = .ok r) :
      ∃ l : Literal, l.negative = negative ∧ s = l.unsigned ++ r := by
    obtain ⟨fraction, exponent, hfraction, hexponent, rfl⟩ := skipAfterWhole_sound ht
    refine ⟨⟨negative, ds, fraction, exponent, hds, hplain, hfraction, hexponent.mark,
      hexponent.digits⟩, rfl, ?_⟩
    rw [hs]
    simp [Literal.unsigned, Literal.fractionBytes, Literal.exponentBytes, exponentBytes]
  have hzero : Digits [0x30] := ⟨by simp, by simp⟩
  unfold skipNumber at h
  split at h
  · cases h
  rename_i b t
  split at h
  · rename_i hb
    split at h
    · split at h
      · cases h
      · exact hmake hzero (fun _ => rfl) (by rw [hb]; rfl) h
    · cases h
      exact hmake (t := []) hzero (fun _ => rfl) (by rw [hb]; rfl) rfl
  rename_i hb
  split at h
  · rename_i hdigit
    obtain ⟨ds, hds, ht⟩ := exists_digits (s := t) hdigit
    apply hmake hds _ ht h
    intro hhead
    cases ds with
    | nil => cases hhead
    | cons d ds =>
      cases hhead
      exact absurd (List.cons.inj ht).1 hb
  · cases h

theorem skipExponent_complete {sign ds r : Bytes}
    (hsign : sign = [] ∨ sign = [0x2B] ∨ sign = [0x2D]) (hds : Digits ds) (hr : Delimited r) :
    skipExponent (sign ++ (ds ++ r)) = .ok r := by
  obtain ⟨hne, hall⟩ := hds
  cases ds with
  | nil => exact absurd rfl hne
  | cons d ds =>
    obtain ⟨hd, hds⟩ := List.forall_mem_cons.mp hall
    have hdrop := dropDigits_append hds fun b hb => (hr b hb).1
    have hdigit := isDigit_iff.mpr hd
    have hplus : d ≠ 0x2B := by
      rintro rfl
      exact absurd hdigit (by decide)
    have hminus : d ≠ 0x2D := by
      rintro rfl
      exact absurd hdigit (by decide)
    rcases hsign with rfl | rfl | rfl <;> simp [skipExponent, hplus, hminus, hdigit, hdrop]

theorem Literal.exponentBytes_cases (l : Literal) :
    l.exponentBytes = [] ∨ ∃ e sign ds, isExponentMark e = true ∧
      (sign = [] ∨ sign = [0x2B] ∨ sign = [0x2D]) ∧ Digits ds ∧
        l.exponentBytes = e :: (sign ++ ds) := by
  cases h : l.exponent with
  | none => exact .inl (l.exponentBytes_of_none h)
  | some x =>
    obtain ⟨mark, ds⟩ := x
    have hmark := l.exponent_mark _ h
    have hbytes : l.exponentBytes = mark ++ ds := by
      rw [Literal.exponentBytes, h, Option.elim_some]
    rw [hbytes]
    refine .inr ?_
    simp only [List.mem_cons, List.not_mem_nil, or_false] at hmark
    rcases hmark with rfl | rfl | rfl | rfl | rfl | rfl <;>
      exact ⟨_, _, ds, by decide, by decide, l.exponent_digits _ h, rfl⟩

theorem skipAfterDigits_complete (l : Literal) {r : Bytes} (hr : Delimited r) :
    skipAfterDigits (l.exponentBytes ++ r) = .ok r := by
  obtain h | ⟨e, sign, ds, he, hsign, hds, h⟩ := l.exponentBytes_cases
  · rw [h, List.nil_append]
    cases r with
    | nil => rfl
    | cons b r => simp [skipAfterDigits, (hr b rfl).2.2]
  · rw [h, List.cons_append, skipAfterDigits, if_pos he, List.append_assoc]
    exact skipExponent_complete hsign hds hr

theorem skipAfterWhole_of_head {s : Bytes} (h : ∀ b ∈ s.head?, b ≠ 0x2E) :
    skipAfterWhole s = skipAfterDigits s := by
  cases s with
  | nil => rfl
  | cons b s => rw [skipAfterWhole.eq_def, skipAfterDigits]; exact if_neg (h b rfl)

theorem skipAfterWhole_complete (l : Literal) {r : Bytes} (hr : Delimited r) :
    skipAfterWhole (l.fractionBytes ++ (l.exponentBytes ++ r)) = .ok r := by
  have hexponent := skipAfterDigits_complete l hr
  have hhead := l.exponentBytes_head hr
  cases h : l.fraction with
  | none =>
    rw [Literal.fractionBytes, h, Option.elim_none, List.nil_append,
      skipAfterWhole_of_head fun b hb => (hhead b hb).2]
    exact hexponent
  | some ds =>
    obtain ⟨hne, hall⟩ := l.fraction_digits _ h
    cases ds with
    | nil => exact absurd rfl hne
    | cons d ds =>
      obtain ⟨hd, hds⟩ := List.forall_mem_cons.mp hall
      have hdrop := dropDigits_append hds fun b hb => (hhead b hb).1
      rw [Literal.fractionBytes, h]
      simp [skipAfterWhole, isDigit_iff.mpr hd, hdrop, hexponent]

theorem skipNumber_complete (l : Literal) {r : Bytes} (hr : Delimited r) :
    skipNumber (l.unsigned ++ r) = .ok r := by
  have hrest := skipAfterWhole_complete l hr
  have hhead := l.fractionBytes_head fun b hb => (l.exponentBytes_head hr b hb).1
  rw [Literal.unsigned, List.append_assoc, List.append_assoc]
  generalize l.fractionBytes ++ (l.exponentBytes ++ r) = t at hrest hhead ⊢
  obtain ⟨hne, hall⟩ := l.whole_digits
  cases hw : l.whole with
  | nil => exact absurd hw hne
  | cons d ds =>
    rw [hw] at hall
    obtain ⟨hd, hds⟩ := List.forall_mem_cons.mp hall
    by_cases hzero : d = 0x30
    · subst d
      cases hw.symm.trans (l.whole_plain (by rw [hw]; rfl))
      cases t with
      | nil => exact hrest
      | cons b t =>
        have hb := hhead b rfl
        simpa [skipNumber, hb] using hrest
    · have hdrop := dropDigits_append hds hhead
      simpa [skipNumber, hzero, isDigit_iff.mpr hd, hdrop] using hrest

theorem skipScalar_sound {s r : Bytes} (h : skipScalar s = .ok r) :
    ∃ raw, Scalar raw ∧ s = raw ++ r := by
  unfold skipScalar at h
  split at h
  · cases h
  rename_i b t
  split at h
  · rename_i hb
    exact ⟨_, .null, by rw [hb, readWord_eq_ok_iff.mp h]; rfl⟩
  split at h
  · rename_i hb
    exact ⟨_, .trueWord, by rw [hb, readWord_eq_ok_iff.mp h]; rfl⟩
  split at h
  · rename_i hb
    exact ⟨_, .falseWord, by rw [hb, readWord_eq_ok_iff.mp h]; rfl⟩
  split at h
  · rename_i hb
    obtain ⟨l, hl, rfl⟩ := skipNumber_sound h true
    exact ⟨_, .number l, by rw [l.bytes_eq_unsigned, hl, hb]; rfl⟩
  split at h
  · obtain ⟨l, hl, hs⟩ := skipNumber_sound h false
    exact ⟨_, .number l, by rw [l.bytes_eq_unsigned, hl, hs]; rfl⟩
  split at h
  · rename_i hb
    obtain ⟨raw, hraw, rfl⟩ := skipText_eq_ok_iff.mp h
    exact ⟨_, .text hraw, by rw [hb]; simp [quoteMark]⟩
  · cases h

theorem skipScalar_of_digit {d : UInt8} (hd : 0x30 ≤ d ∧ d ≤ 0x39) (r : Bytes) :
    skipScalar (d :: r) = skipNumber (d :: r) := by
  have hne {b : UInt8} (hb : ¬(0x30 ≤ b ∧ b ≤ 0x39)) : d ≠ b := by
    rintro rfl
    exact hb hd
  rw [skipScalar, if_neg (hne (by decide)), if_neg (hne (by decide)), if_neg (hne (by decide)),
    if_neg (hne (by decide)), if_pos (isDigit_iff.mpr hd)]

theorem Scalar.skipScalar {raw r : Bytes} (h : Scalar raw) (hr : Delimited r) :
    Json.skipScalar (raw ++ r) = .ok r := by
  cases h with
  | null => rfl
  | trueWord => rfl
  | falseWord => rfl
  | number l =>
    have hnumber := skipNumber_complete l hr
    obtain ⟨d, t, ht, hd⟩ := l.unsigned_opens
    rw [l.bytes_eq_unsigned]
    cases l.negative with
    | true => exact hnumber
    | false =>
      rw [ht] at hnumber ⊢
      exact (skipScalar_of_digit hd (t ++ r)).trans hnumber
  | @text raw h =>
    have htext := h.skipText r
    rw [List.append_assoc]
    exact htext

section Brackets

variable {frame : Frame} {frames : List Frame} {b : UInt8} {s r r' : Bytes}

theorem skipValue_open (h : skipSpace s = frame.opening :: r) :
    skipValue .value frames s = skipValue .first (frame :: frames) r := by
  rw [skipValue.eq_def]
  dsimp only
  split
  · simp_all
  · rename_i c t hc
    rw [h] at hc
    cases hc
    cases frame <;> rfl

theorem skipValue_scalar (h : skipSpace s = b :: r) (hlist : b ≠ 0x5B) (hobject : b ≠ 0x7B)
    (hscalar : skipScalar (b :: r) = .ok r') :
    skipValue .value frames s = skipValue .next frames r' := by
  rw [skipValue.eq_def]
  dsimp only
  split
  · simp_all
  · rename_i c t hc
    rw [h] at hc
    cases hc
    rw [if_neg hlist, if_neg hobject]
    split <;> simp_all

theorem skipValue_close {due : Due} (hdue : due ≠ .value) (h : skipSpace s = frame.close :: r) :
    skipValue due (frame :: frames) s = skipValue .next frames r := by
  have hcomma : frame.close ≠ comma := by cases frame <;> decide
  cases due with
  | value => exact absurd rfl hdue
  | first =>
    rw [skipValue.eq_def]
    dsimp only
    split
    · simp_all
    · rename_i c t hc
      rw [h] at hc
      cases hc
      exact if_pos rfl
  | next =>
    rw [skipValue.eq_def]
    dsimp only
    split
    · simp_all
    · rename_i c t hc
      rw [h] at hc
      cases hc
      rw [if_neg hcomma, if_pos rfl]

theorem skipValue_first (h : skipSpace s = b :: r) (hclose : b ≠ frame.close)
    (hkey : skipKey frame (b :: r) = .ok r') :
    skipValue .first (frame :: frames) s = skipValue .value (frame :: frames) r' := by
  rw [skipValue.eq_def]
  dsimp only
  split
  · simp_all
  · rename_i c t hc
    rw [h] at hc
    cases hc
    rw [if_neg hclose]
    split <;> simp_all

theorem skipValue_comma (h : skipSpace s = 0x2C :: r) (hkey : skipKey frame r = .ok r') :
    skipValue .next (frame :: frames) s = skipValue .value (frame :: frames) r' := by
  rw [skipValue.eq_def]
  dsimp only
  split
  · simp_all
  · rename_i c t hc
    rw [h] at hc
    cases hc
    have hcomma : (0x2C : UInt8) = comma := rfl
    rw [if_pos hcomma]
    split <;> simp_all

end Brackets

/-- Values shorter than `n` are passed over, whatever brackets are open around them. -/
def SkipsBelow (n : Nat) : Prop :=
  ∀ {raw blank r : Bytes} {frames : List Frame}, raw.length < n → Shape raw → Blank blank →
    Delimited r → skipValue .value frames (blank ++ raw ++ r) = skipValue .next frames r

section Below

variable {n k : Nat} {frame : Frame} {frames : List Frame} {raw blank r : Bytes}

theorem SkipsBelow.item (h : SkipsBelow n) (frames : List Frame) (hn : raw.length < n)
    (hraw : Item frame raw) (hblank : Blank blank) (hr : Delimited r) :
    ∃ s, skipKey frame (blank ++ raw ++ r) = .ok s ∧
      skipValue .value (frame :: frames) s = skipValue .next (frame :: frames) r := by
  cases hraw with
  | element hraw => exact ⟨_, rfl, h hn hraw hblank hr⟩
  | @member key before after raw hkey hbefore hafter hraw =>
    simp only [List.length_append, List.length_cons] at hn
    have hquote : isSpace 0x22 = false := by decide
    have htext := hkey.skipText (before ++ 0x3A :: (after ++ raw ++ r))
    have hcolon := readColon_eq_ok_iff.mpr ⟨before, hbefore,
      (rfl : before ++ 0x3A :: (after ++ raw ++ r) = _)⟩
    refine ⟨after ++ raw ++ r, ?_, h (by omega) hraw hafter hr⟩
    rw [skipKey, List.append_assoc, skipSpace_append hblank]
    simp only [List.append_assoc, List.cons_append] at htext hcolon ⊢
    simp [skipSpace_cons hquote, quoteMark, htext, hcolon]

theorem SkipsBelow.follows (h : SkipsBelow n) (hn : raw.length < n)
    (hraw : Follows Item (List.replicate k frame) raw) (r : Bytes) :
    skipValue .next (frame :: frames) (raw ++ frame.close :: r) = skipValue .next frames r := by
  have hnext : Due.next ≠ .value := nofun
  induction k generalizing raw with
  | zero =>
    have hblank := follows_nil_iff.mp hraw
    apply skipValue_close hnext
    rw [skipSpace_append hblank, skipSpace_close frame.close_cases]
  | succ k ih =>
    obtain ⟨blank, items, hblank, hitems, rfl⟩ := follows_cons_iff.mp hraw
    obtain ⟨blank', item, rest, hblank', hitem, hrest, rfl⟩ := separated_cons_iff.mp hitems
    simp only [List.length_append, List.length_cons] at hn
    obtain ⟨s, hkey, hs⟩ := h.item frames (by omega) hitem hblank'
      (hrest.delimited frame.close_cases r)
    have hcomma : skipSpace (blank ++ 0x2C :: (blank' ++ item ++ rest) ++ frame.close :: r) =
        0x2C :: (blank' ++ item ++ (rest ++ frame.close :: r)) := by
      rw [List.append_assoc, skipSpace_append hblank, List.cons_append, skipSpace_comma,
        List.append_assoc (blank' ++ item)]
    rw [skipValue_comma hcomma hkey, hs]
    exact ih (by omega) hrest

theorem SkipsBelow.inside (h : SkipsBelow n) (hn : raw.length < n)
    (hraw : Inside Item (List.replicate k frame) raw) (r : Bytes) :
    skipValue .first (frame :: frames) (raw ++ frame.close :: r) = skipValue .next frames r := by
  rcases hraw with hraw | ⟨-, hblank⟩
  · cases k with
    | zero => cases hraw
    | succ k =>
      obtain ⟨blank, item, rest, hblank, hitem, hrest, rfl⟩ := separated_cons_iff.mp hraw
      simp only [List.length_append] at hn
      obtain ⟨s, hkey, hs⟩ := h.item frames (by omega) hitem Blank.nil
        (hrest.delimited frame.close_cases r)
      obtain ⟨b, t, rfl, hspace, hclose⟩ := hitem.opens
      have hskip : skipSpace (blank ++ (b :: t) ++ rest ++ frame.close :: r) =
          b :: (t ++ (rest ++ frame.close :: r)) := by
        rw [List.append_assoc, List.append_assoc, skipSpace_append hblank, List.cons_append,
          skipSpace_cons hspace]
      rw [skipValue_first hskip hclose hkey, hs]
      exact h.follows (by omega) hrest r
  · have hfirst : Due.first ≠ .value := nofun
    apply skipValue_close hfirst
    rw [skipSpace_append hblank, skipSpace_close frame.close_cases]

end Below

theorem skipsBelow (n : Nat) : SkipsBelow n := by
  -- Values stand in the lists of items of other values, so that the induction is on their length.
  induction n with
  | zero =>
    intro raw blank r frames hn
    cases hn
  | succ n ih =>
    intro raw blank r frames hn h hblank hr
    obtain h | ⟨frame, k, body, hbody, rfl⟩ := h.cases_bracketed
    · have hscalar := h.skipScalar hr
      obtain ⟨b, t, rfl, hspace, hlist, hobject, -⟩ := h.opens
      have hskip : skipSpace (blank ++ (b :: t) ++ r) = b :: (t ++ r) := by
        rw [List.append_assoc, skipSpace_append hblank, List.cons_append, skipSpace_cons hspace]
      exact skipValue_scalar hskip hlist hobject hscalar
    · simp only [List.cons_append, List.length_cons, List.length_append] at hn
      have hspace : isSpace frame.opening = false := by cases frame <;> decide
      have hopen : skipSpace (blank ++ (frame.opening :: body ++ [frame.close]) ++ r) =
          frame.opening :: (body ++ frame.close :: r) := by
        rw [List.append_assoc, skipSpace_append hblank, List.append_assoc, List.cons_append,
          skipSpace_cons hspace]
        rfl
      rw [skipValue_open hopen]
      exact ih.inside (by omega) hbody r

theorem Shape.skipValue {raw blank r : Bytes} (h : Shape raw) (hblank : Blank blank)
    (hr : Delimited r) : Json.skipValue .value [] (blank ++ raw ++ r) = .ok r := by
  rw [skipsBelow _ (Nat.lt_succ_self _) h hblank hr, Json.skipValue.eq_def]

def Closes : List Frame → Bytes → Bytes → Prop
  | [], s, r => s = r
  | frame :: frames, s, r => ∃ k rest t, Follows Item (List.replicate k frame) rest ∧
      s = rest ++ frame.close :: t ∧ Closes frames t r

def Passed : Due → List Frame → Bytes → Bytes → Prop
  | .value, frames, s, r =>
    ∃ blank raw t, Blank blank ∧ Shape raw ∧ s = blank ++ raw ++ t ∧ Closes frames t r
  | .first, frame :: frames, s, r => ∃ k body t, Inside Item (List.replicate k frame) body ∧
      s = body ++ frame.close :: t ∧ Closes frames t r
  | .first, [], s, r => s = r
  | .next, frames, s, r => Closes frames s r

theorem Closes.items {frame : Frame} {frames : List Frame} {s s' r : Bytes}
    (hkey : skipKey frame s = .ok s') (h : Passed .value (frame :: frames) s' r) :
    ∃ k raw t, Separated Item (List.replicate (k + 1) frame) raw ∧ s = raw ++ frame.close :: t ∧
      Closes frames t r := by
  obtain ⟨blank, raw, u, hblank, hraw, rfl, k, rest, t, hrest, rfl, hcloses⟩ := h
  have hone {before item : Bytes} (hbefore : Blank before) (hitem : Item frame item)
      (hs : s = before ++ item ++ (rest ++ frame.close :: t)) :
      ∃ k raw t, Separated Item (List.replicate (k + 1) frame) raw ∧ s = raw ++ frame.close :: t ∧
        Closes frames t r := by
    have hitems : Separated Item (List.replicate (k + 1) frame) (before ++ item ++ rest) :=
      separated_cons_iff.mpr ⟨_, _, _, hbefore, hitem, hrest, rfl⟩
    exact ⟨k, _, t, hitems, by rw [hs]; simp, hcloses⟩
  cases frame with
  | list =>
    cases hkey
    exact hone hblank (.element hraw) rfl
  | object =>
    obtain ⟨before, hbefore, hs⟩ := exists_skipSpace s
    rw [skipKey] at hkey
    split at hkey
    · cases hkey
    rename_i b v hb
    rw [hb] at hs
    split at hkey
    · rename_i hquote
      split at hkey
      · cases hkey
      rename_i v' htext
      obtain ⟨key, hkeyraw, rfl⟩ := skipText_eq_ok_iff.mp htext
      obtain ⟨before', hbefore', rfl⟩ := readColon_eq_ok_iff.mp hkey
      apply hone hbefore (.member hkeyraw hbefore' hblank hraw)
      rw [hs, hquote]
      simp [quoteMark]
    · cases hkey

theorem Separated.blank_append {α : Type} {P : α → Bytes → Prop} {a : α} {as : List α}
    {blank raw : Bytes} (hblank : Blank blank) (h : Separated P (a :: as) raw) :
    Separated P (a :: as) (blank ++ raw) := by
  obtain ⟨blank', item, rest, hblank', hitem, hrest, rfl⟩ := separated_cons_iff.mp h
  exact separated_cons_iff.mpr
    ⟨_, _, _, hblank.append hblank', hitem, hrest, by simp only [List.append_assoc]⟩

theorem Passed.bracketed {frame : Frame} {frames : List Frame} {s s' r : Bytes}
    (hs : skipSpace s = frame.opening :: s') (h : Passed .first (frame :: frames) s' r) :
    Passed .value frames s r := by
  obtain ⟨blank, hblank, hskip⟩ := exists_skipSpace s
  obtain ⟨k, body, t, hbody, rfl, hcloses⟩ := h
  refine ⟨blank, _, t, hblank, .bracketed hbody, ?_, hcloses⟩
  rw [hskip, hs]
  simp

theorem skipValue_passed {due : Due} {frames : List Frame} {s r : Bytes}
    (h : skipValue due frames s = .ok r) : Passed due frames s r := by
  fun_induction skipValue due frames s with
  | case1 => cases h
  | case2 s frames s' hs _ ih =>
    have hopen : skipSpace s = Frame.list.opening :: s' := hs
    exact (ih h).bracketed hopen
  | case3 s frames s' hs _ _ ih =>
    have hopen : skipSpace s = Frame.object.opening :: s' := hs
    exact (ih h).bracketed hopen
  | case4 => cases h
  | case5 s frames b s' hs _ _ _ t hscalar _ ih =>
    obtain ⟨blank, hblank, hskip⟩ := exists_skipSpace s
    obtain ⟨raw, hraw, hraws⟩ := skipScalar_sound hscalar
    refine ⟨blank, raw, t, hblank, .scalar hraw, ?_, ih h⟩
    rw [hskip, hs, hraws, List.append_assoc]
  | case6 =>
    cases h
    rfl
  | case7 => cases h
  | case8 s frame frames s' hs _ ih =>
    obtain ⟨blank, hblank, hskip⟩ := exists_skipSpace s
    exact ⟨0, blank, s', .inr ⟨rfl, hblank⟩, hs ▸ hskip, ih h⟩
  | case9 => cases h
  | case10 s frame frames b s' hs _ _ t hkey _ ih =>
    obtain ⟨blank, hblank, hskip⟩ := exists_skipSpace s
    obtain ⟨k, raw, u, hraw, hraws, hcloses⟩ := Closes.items hkey (ih h)
    refine ⟨k + 1, blank ++ raw, u, .inl (hraw.blank_append hblank), ?_, hcloses⟩
    rw [hskip, hs, hraws, List.append_assoc]
  | case11 =>
    cases h
    rfl
  | case12 => cases h
  | case13 => cases h
  | case14 s frame frames s' t hkey _ hs _ ih =>
    obtain ⟨blank, hblank, hskip⟩ := exists_skipSpace s
    obtain ⟨k, raw, u, hraw, hraws, hcloses⟩ := Closes.items hkey (ih h)
    refine ⟨k + 1, blank ++ 0x2C :: raw, u, .more hblank hraw, ?_, hcloses⟩
    rw [hskip, hs, hraws]
    simp [comma]
  | case15 s frame frames s' hs _ _ ih =>
    obtain ⟨blank, hblank, hskip⟩ := exists_skipSpace s
    exact ⟨0, blank, s', .nothing hblank, hs ▸ hskip, ih h⟩
  | case16 => cases h

theorem skipValue_sound {s r : Bytes} (h : skipValue .value [] s = .ok r) :
    ∃ blank raw, Blank blank ∧ Shape raw ∧ s = blank ++ raw ++ r := by
  obtain ⟨blank, raw, t, hblank, hraw, rfl, rfl⟩ := skipValue_passed h
  exact ⟨blank, raw, hblank, hraw, rfl⟩

theorem shape_cons_iff {b : UInt8} {t : Bytes} (hb : isSpace b = false) :
    Shape (b :: t) ↔ skipValue .value [] (b :: t) = .ok [] := by
  constructor
  · intro h
    simpa using h.skipValue Blank.nil (r := []) (by simp [Delimited])
  · intro h
    obtain ⟨blank, raw, hblank, hraw, heq⟩ := skipValue_sound h
    rw [List.append_nil] at heq
    cases blank with
    | nil => exact heq ▸ hraw
    | cons d blank =>
      cases heq
      rw [isSpace_iff.mpr (hblank b List.mem_cons_self)] at hb
      cases hb

theorem Shape.unambiguous {raw raw' r r' : Bytes} (h : Shape raw) (h' : Shape raw')
    (hr : Delimited r) (hr' : Delimited r') (heq : raw ++ r = raw' ++ r') :
    raw = raw' ∧ r = r' := by
  have hskip := h.skipValue Blank.nil hr
  have hskip' := h'.skipValue Blank.nil hr'
  rw [List.nil_append] at hskip hskip'
  rw [heq, hskip'] at hskip
  cases hskip
  exact ⟨List.append_cancel_right heq, rfl⟩

end CardDesk.Json
