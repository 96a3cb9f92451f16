import CardDesk.Json.Members
import CardDesk.Proofs.Json.Integers
import CardDesk.Proofs.Json.Strings

namespace CardDesk.Json

variable {α γ : Type}

theorem isSpace_iff {b : UInt8} :
    isSpace b = true ↔ b = 0x20 ∨ b = 0x09 ∨ b = 0x0A ∨ b = 0x0D := by
  simp only [isSpace, Bool.or_eq_true, beq_iff_eq]
  grind

theorem Blank.nil : Blank [] := by
  intro b hb
  cases hb

theorem Blank.append {s t : Bytes} (hs : Blank s) (ht : Blank t) : Blank (s ++ t) := by
  intro b hb
  rcases List.mem_append.mp hb with hb | hb
  · exact hs b hb
  · exact ht b hb

theorem exists_skipSpace (s : Bytes) : ∃ blank, Blank blank ∧ s = blank ++ skipSpace s := by
  refine ⟨s.takeWhile isSpace, ?_, List.takeWhile_append_dropWhile.symm⟩
  intro b hb
  exact isSpace_iff.mp (List.all_eq_true.mp List.all_takeWhile b hb)

theorem skipSpace_append {blank : Bytes} (h : Blank blank) (s : Bytes) :
    skipSpace (blank ++ s) = skipSpace s := by
  induction blank with
  | nil => rfl
  | cons b blank ih =>
    have hb := isSpace_iff.mpr (h b List.mem_cons_self)
    rw [List.cons_append, skipSpace, List.dropWhile_cons_of_pos hb]
    exact ih fun c hc => h c (List.mem_cons_of_mem _ hc)

theorem skipSpace_cons {b : UInt8} (h : isSpace b = false) (r : Bytes) :
    skipSpace (b :: r) = b :: r :=
  List.dropWhile_cons_of_neg (by simp [h])

theorem skipSpace_eq_nil_iff {s : Bytes} : skipSpace s = [] ↔ Blank s := by
  constructor
  · intro h
    obtain ⟨blank, hblank, hs⟩ := exists_skipSpace s
    rw [hs, h, List.append_nil]
    exact hblank
  · intro h
    have := skipSpace_append h []
    rwa [List.append_nil] at this

theorem skipSpace_eq_cons_iff {b : UInt8} (hb : isSpace b = false) {s r : Bytes} :
    skipSpace s = b :: r ↔ ∃ blank, Blank blank ∧ s = blank ++ b :: r := by
  constructor
  · intro h
    obtain ⟨blank, hblank, hs⟩ := exists_skipSpace s
    exact ⟨blank, hblank, h ▸ hs⟩
  · rintro ⟨blank, hblank, rfl⟩
    rw [skipSpace_append hblank, skipSpace_cons hb]

theorem readWord_eq_ok_iff {word s r : Bytes} : readWord word s = .ok r ↔ s = word ++ r := by
  induction word generalizing s with
  | nil => simp [readWord]
  | cons c word ih =>
    cases s with
    | nil => simp [readWord]
    | cons b s =>
      rw [readWord, List.cons_append, List.cons.injEq]
      split
      · rename_i hb
        rw [ih]
        simp [hb]
      · rename_i hb
        simp [hb]

theorem readEnd_eq_ok_iff {s : Bytes} : readEnd s = .ok () ↔ Blank s := by
  rw [readEnd, ← skipSpace_eq_nil_iff]
  cases skipSpace s <;> simp

theorem readColon_eq_ok_iff {s r : Bytes} :
    readColon s = .ok r ↔ ∃ blank, Blank blank ∧ s = blank ++ 0x3A :: r := by
  rw [readColon, ← skipSpace_eq_cons_iff (by decide)]
  cases skipSpace s with
  | nil => simp
  | cons b t =>
    rw [List.cons.injEq]
    dsimp only
    split <;> simp [*]

theorem closeObject_eq_ok_iff {s r : Bytes} :
    closeObject s = .ok r ↔ ∃ blank, Blank blank ∧ s = blank ++ 0x7D :: r := by
  rw [closeObject, ← skipSpace_eq_cons_iff (by decide)]
  cases skipSpace s with
  | nil => simp
  | cons b t =>
    rw [List.cons.injEq]
    dsimp only
    split
    · simp [*]
    split <;> simp [*, comma]

theorem closeList_eq_ok_iff {s r : Bytes} :
    closeList s = .ok r ↔ ∃ blank, Blank blank ∧ s = blank ++ 0x5D :: r := by
  rw [closeList, ← skipSpace_eq_cons_iff (by decide)]
  cases skipSpace s with
  | nil => simp
  | cons b t =>
    rw [List.cons.injEq]
    dsimp only
    split
    · simp [*]
    split
    · split <;> simp [*, comma]
    · simp [*]

def Says (P : Value → α → Prop) (a : α) (raw : Bytes) : Prop :=
  ∃ v, P v a ∧ Written v raw

structure Reads (read : Reader α) (P : Value → α → Prop) : Prop where
  sound : ∀ {s r : Bytes} {a : α}, read s = .ok (a, r) →
    ∃ blank raw, Blank blank ∧ Says P a raw ∧ s = blank ++ raw ++ r
  complete : ∀ {blank raw r : Bytes} {a : α}, Blank blank → Says P a raw → Delimited r →
    read (blank ++ raw ++ r) = .ok (a, r)

def Value.IsInteger : Value → Int32 → Prop
  | number l, i => l.integer? = some i.toInt
  | _, _ => False

def Value.IsText : Value → String → Prop
  | text s, t => s = t
  | _, _ => False

inductive Value.Optionally (P : Value → α → Prop) : Option Value → Option α → Prop
  | missing : Optionally P none none
  | null : Optionally P (some .null) none
  | present {v : Value} {a : α} (h : P v a) : Optionally P (some v) (some a)

theorem says_isText_iff {s : String} {raw : Bytes} :
    Says Value.IsText s raw ↔ TextWritten s raw := by
  constructor
  · rintro ⟨v, hv, hraw⟩
    cases hraw <;> cases hv
    assumption
  · intro h
    exact ⟨.text s, rfl, .text h⟩

theorem isSpace_of_digit {b : UInt8} (h : 0x30 ≤ b ∧ b ≤ 0x39) :
    isSpace b = false ∧ b ≠ 0x2D ∧ b ≠ 0x5D ∧ b ≠ 0x6E := by
  obtain ⟨hle, hge⟩ := h
  refine ⟨?_, ?_, ?_, ?_⟩
  · rw [← Bool.not_eq_true, isSpace_iff]
    rintro (rfl | rfl | rfl | rfl) <;> exact absurd hle (by decide)
  · rintro rfl
    exact absurd hle (by decide)
  · rintro rfl
    exact absurd hge (by decide)
  · rintro rfl
    exact absurd hge (by decide)

theorem Written.opens {v : Value} {raw : Bytes} (h : Written v raw) :
    ∃ b t, raw = b :: t ∧ isSpace b = false ∧ b ≠ 0x5D ∧ (b = 0x6E → v = .null) := by
  cases h with
  | null => exact ⟨_, _, rfl, by decide, by decide, fun _ => rfl⟩
  | number l =>
    obtain ⟨hne, hall⟩ := l.whole_digits
    cases hw : l.whole with
    | nil => exact absurd hw hne
    | cons b ds =>
      rw [Literal.bytes, hw]
      cases l.negative with
      | true => exact ⟨0x2D, _, rfl, by decide, by decide, fun h => absurd h (by decide)⟩
      | false =>
        obtain ⟨hspace, -, hclose, hnull⟩ := isSpace_of_digit (hall b (hw ▸ List.mem_cons_self))
        exact ⟨b, _, rfl, hspace, hclose, fun h => absurd h hnull⟩
  | text h =>
    cases h
    exact ⟨_, _, rfl, by decide, by decide, fun h => absurd h (by decide)⟩
  | _ => exact ⟨_, _, rfl, by decide, by decide, fun h => absurd h (by decide)⟩

theorem says_isInteger_iff {i : Int32} {raw : Bytes} :
    Says Value.IsInteger i raw ↔ ∃ l : Literal, l.integer? = some i.toInt ∧
      raw = if l.negative then 0x2D :: l.whole else l.whole := by
  constructor
  · rintro ⟨v, hv, hraw⟩
    cases hraw <;> try cases hv
    case number l => exact ⟨l, hv, Literal.bytes_of_integer hv⟩
  · rintro ⟨l, hl, rfl⟩
    exact ⟨.number l, hl, Literal.bytes_of_integer hl ▸ .number l⟩

theorem readInt32_reads : Reads readInt32 Value.IsInteger where
  sound := by
    intro s r i h
    obtain ⟨blank, hblank, hs⟩ := exists_skipSpace s
    rw [readInt32] at h
    split at h
    · cases h
    rename_i b t hb
    rw [hb] at hs
    split at h
    · rename_i hminus
      obtain ⟨l, hl, hnegative, rfl⟩ := int32OfNumber_sound h
      refine ⟨blank, _, hblank, says_isInteger_iff.mpr ⟨l, hl, rfl⟩, ?_⟩
      rw [hs, hnegative, hminus]
      simp
    split at h
    · obtain ⟨l, hl, hnegative, hw⟩ := int32OfNumber_sound h
      refine ⟨blank, _, hblank, says_isInteger_iff.mpr ⟨l, hl, rfl⟩, ?_⟩
      rw [hs, hnegative, hw]
      simp
    · cases h
  complete := by
    rintro blank raw r i hblank hsays hr
    obtain ⟨l, hl, rfl⟩ := says_isInteger_iff.mp hsays
    have hnumber := int32OfNumber_complete hl hr
    rw [readInt32, List.append_assoc, skipSpace_append hblank]
    cases hnegative : l.negative with
    | true =>
      rw [hnegative] at hnumber
      exact hnumber
    | false =>
      rw [hnegative] at hnumber
      obtain ⟨hne, hall⟩ := l.whole_digits
      cases hw : l.whole with
      | nil => exact absurd hw hne
      | cons b ds =>
        obtain ⟨hb, -⟩ := List.forall_mem_cons.mp (hw ▸ hall)
        obtain ⟨hspace, hminus, -, -⟩ := isSpace_of_digit hb
        rw [hw] at hnumber
        simp [skipSpace_cons hspace, hminus, isDigit_iff.mpr hb]
        exact hnumber

theorem readString_reads (expected : String) : Reads (readString expected) Value.IsText where
  sound := by
    intro s r t h
    obtain ⟨blank, hblank, hs⟩ := exists_skipSpace s
    rw [readString] at h
    split at h
    · cases h
    rename_i b u hb
    rw [hb] at hs
    split at h
    · rename_i hquote
      obtain ⟨raw, hraw, rfl⟩ := readText_eq_ok_iff.mp h
      refine ⟨blank, _, hblank, says_isText_iff.mpr (.mk hraw), ?_⟩
      rw [hs, hquote]
      simp [quoteMark]
    · cases h
  complete := by
    intro blank raw r t hblank hsays _
    cases says_isText_iff.mp hsays with
    | @mk raw hraw =>
      have htext := hraw.readText r
      have hspace : isSpace 0x22 = false := by decide
      rw [readString, List.append_assoc, skipSpace_append hblank]
      simpa [skipSpace_cons hspace, quoteMark] using htext

theorem Reads.optional {read : Reader α} {P : Value → α → Prop} (h : Reads read P)
    (hnull : ∀ a, ¬P .null a) :
    Reads (readOptional read) fun v x => Value.Optionally P (some v) x where
  sound := by
    intro s r x hread
    obtain ⟨blank, hblank, hs⟩ := exists_skipSpace s
    rw [readOptional] at hread
    split at hread
    · rename_i t ht
      rw [ht] at hs
      cases hw : readWord tailOfNull t with
      | error f =>
        rw [hw] at hread
        cases hread
      | ok r' =>
        rw [hw] at hread
        cases hread
        rw [readWord_eq_ok_iff.mp hw] at hs
        refine ⟨blank, _, hblank, ⟨.null, .null, .null⟩, ?_⟩
        rw [hs]
        simp [tailOfNull]
    · cases ha : read (skipSpace s) with
      | error f =>
        rw [ha] at hread
        cases hread
      | ok ar =>
        rw [ha] at hread
        cases hread
        obtain ⟨blank', raw, hblank', ⟨v, hv, hraw⟩, hskip⟩ := h.sound ha
        refine ⟨blank ++ blank', raw, hblank.append hblank', ⟨v, .present hv, hraw⟩, ?_⟩
        rw [hs, hskip]
        simp
  complete := by
    rintro blank raw r x hblank ⟨v, hv, hraw⟩ hr
    rw [readOptional, List.append_assoc, skipSpace_append hblank]
    cases hv with
    | null =>
      cases hraw
      have hword := readWord_eq_ok_iff.mpr (rfl : tailOfNull ++ r = tailOfNull ++ r)
      exact congrArg (Except.map (none, ·)) hword
    | @present v a hv =>
      have hread := h.complete Blank.nil ⟨v, hv, hraw⟩ hr
      obtain ⟨b, t, rfl, hspace, -, hb⟩ := hraw.opens
      have hne : b ≠ 0x6E := by
        intro hb'
        rw [hb hb'] at hv
        exact hnull a hv
      rw [List.cons_append, skipSpace_cons hspace]
      split
      · rename_i heq
        exact absurd (List.cons.inj heq).1 hne
      · exact congrArg (Except.map _) hread

end CardDesk.Json
