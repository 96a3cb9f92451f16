import CardDesk.Json.Text
import CardDesk.Proofs.Json.Grammar

namespace CardDesk.Json

theorem hexValue?_eq_some_iff {b : UInt8} {n : Nat} : hexValue? b = some n ↔ HexDigit b n := by
  constructor
  · intro h
    have hb : b = UInt8.ofNat b.toNat := UInt8.ofNat_toNat.symm
    rw [hexValue?] at h
    split at h
    · obtain ⟨k, hk⟩ : ∃ k, b.toNat = 0x30 + k := ⟨b.toNat - 0x30, by omega⟩
      obtain rfl : k = n := by
        cases h
        omega
      rw [hb, hk]
      exact .digit (by omega)
    split at h
    · obtain ⟨k, hk⟩ : ∃ k, b.toNat = 0x41 + k := ⟨b.toNat - 0x41, by omega⟩
      obtain rfl : 10 + k = n := by
        cases h
        omega
      rw [hb, hk]
      exact .upper (by omega)
    split at h
    · obtain ⟨k, hk⟩ : ∃ k, b.toNat = 0x61 + k := ⟨b.toNat - 0x61, by omega⟩
      obtain rfl : 10 + k = n := by
        cases h
        omega
      rw [hb, hk]
      exact .lower (by omega)
    · cases h
  · intro h
    cases h with
    | @digit n h =>
      have hn := UInt8.toNat_ofNat_of_lt' (show 0x30 + n < 256 by omega)
      rw [hexValue?, hn, if_pos (by omega)]
      simp
    | @upper n h =>
      have hn := UInt8.toNat_ofNat_of_lt' (show 0x41 + n < 256 by omega)
      rw [hexValue?, hn, if_neg (by omega), if_pos (by omega)]
      simp
      omega
    | @lower n h =>
      have hn := UInt8.toNat_ofNat_of_lt' (show 0x61 + n < 256 by omega)
      rw [hexValue?, hn, if_neg (by omega), if_neg (by omega), if_pos (by omega)]
      simp
      omega

theorem hexNumber?_eq_some_iff {a b c d : UInt8} {n : Nat} :
    hexNumber? a b c d = some n ↔ FourHexDigits [a, b, c, d] n := by
  constructor
  · intro h
    simp only [hexNumber?, Option.bind_eq_bind, Option.bind_eq_some_iff, Option.pure_def,
      Option.some.injEq] at h
    obtain ⟨i, hi, j, hj, k, hk, l, hl, rfl⟩ := h
    rw [hexValue?_eq_some_iff] at hi hj hk hl
    have hn : ((i * 16 + j) * 16 + k) * 16 + l = i * 4096 + j * 256 + k * 16 + l := by omega
    rw [hn]
    exact .mk hi hj hk hl
  · rintro ⟨hi, hj, hk, hl⟩
    rw [← hexValue?_eq_some_iff] at hi hj hk hl
    simp [hexNumber?, hi, hj, hk, hl]
    omega

theorem readHex_eq_ok_iff {s r : Bytes} {n : Nat} :
    readHex s = .ok (n, r) ↔ ∃ ds, FourHexDigits ds n ∧ s = ds ++ r := by
  constructor
  · intro h
    rw [readHex.eq_def] at h
    split at h
    · rename_i a b c d r'
      split at h
      · rename_i n' hn
        cases h
        exact ⟨[a, b, c, d], hexNumber?_eq_some_iff.mp hn, rfl⟩
      · cases h
    · cases h
  · rintro ⟨ds, h, rfl⟩
    cases h with
    | mk hi hj hk hl =>
      have hn := hexNumber?_eq_some_iff.mpr (.mk hi hj hk hl)
      rw [List.cons_append, List.cons_append, List.cons_append, List.cons_append, List.nil_append,
        readHex, hn]

theorem FourHexDigits.lt {ds : Bytes} {n : Nat} (h : FourHexDigits ds n) : n < 0x10000 := by
  have hdigit {b : UInt8} {i : Nat} (h : HexDigit b i) : i < 16 := by
    cases h <;> omega
  cases h with
  | mk ha hb hc hd =>
    have := hdigit ha
    have := hdigit hb
    have := hdigit hc
    have := hdigit hd
    omega

theorem encodeChar_toNat (c : Char) : encodeChar c.toNat = String.utf8EncodeChar c := by
  rw [encodeChar, Char.ofNat_toNat]

theorem exists_char {n : Nat} (h : n < 0xD800 ∨ 0xDFFF < n ∧ n < 0x110000) :
    ∃ c : Char, c.toNat = n := by
  have h : n.isValidChar := h
  refine ⟨Char.ofNat n, ?_⟩
  rw [Char.ofNat, dif_pos h]
  rfl

theorem isLeading_iff {n : Nat} : isLeading n = true ↔ 0xD800 ≤ n ∧ n ≤ 0xDBFF := by
  rw [isLeading, Bool.and_eq_true, decide_eq_true_eq, decide_eq_true_eq]

theorem isTrailing_iff {n : Nat} : isTrailing n = true ↔ 0xDC00 ≤ n ∧ n ≤ 0xDFFF := by
  rw [isTrailing, Bool.and_eq_true, decide_eq_true_eq, decide_eq_true_eq]

theorem shortEscape?_eq_some_iff {b c : UInt8} :
    shortEscape? b = some c ↔ ∃ d, (b, d) ∈ shortEscapes ∧ String.utf8EncodeChar d = [c] := by
  constructor
  · intro h
    unfold shortEscape? at h
    repeat' split at h
    all_goals cases h
    all_goals subst b
    · exact ⟨'"', by decide, rfl⟩
    · exact ⟨'\\', by decide, rfl⟩
    · exact ⟨'/', by decide, rfl⟩
    · exact ⟨'\x08', by decide, rfl⟩
    · exact ⟨'\x0C', by decide, rfl⟩
    · exact ⟨'\n', by decide, rfl⟩
    · exact ⟨'\r', by decide, rfl⟩
    · exact ⟨'\t', by decide, rfl⟩
  · rintro ⟨d, hd, hc⟩
    simp only [shortEscapes, List.mem_cons, Prod.mk.injEq, List.not_mem_nil, or_false] at hd
    rcases hd with ⟨rfl, rfl⟩ | ⟨rfl, rfl⟩ | ⟨rfl, rfl⟩ | ⟨rfl, rfl⟩ | ⟨rfl, rfl⟩ | ⟨rfl, rfl⟩ |
      ⟨rfl, rfl⟩ | ⟨rfl, rfl⟩ <;> cases hc <;> rfl

theorem readTrailing_eq_ok_iff {high : Nat} (hhigh : 0xD800 ≤ high ∧ high ≤ 0xDBFF)
    {s v r : Bytes} :
    readTrailing high s = .ok (v, r) ↔ ∃ (c : Char) (ds : Bytes) (low : Nat),
      FourHexDigits ds low ∧ (0xDC00 ≤ low ∧ low ≤ 0xDFFF) ∧
        c.toNat = 0x10000 + (high - 0xD800) * 0x400 + (low - 0xDC00) ∧
        v = String.utf8EncodeChar c ∧ s = 0x5C :: 0x75 :: ds ++ r := by
  constructor
  · intro h
    unfold readTrailing at h
    split at h
    · cases h
    rename_i a s
    split at h
    · cases h
    rename_i ha
    split at h
    · cases h
    rename_i b s
    split at h
    · cases h
    rename_i hb
    split at h
    · cases h
    rename_i low r' hhex
    split at h
    · rename_i hlow
      obtain ⟨ds, hds, rfl⟩ := readHex_eq_ok_iff.mp hhex
      rw [isTrailing_iff] at hlow
      generalize hn : (high - 0xD800) * 0x400 + (low - 0xDC00) + 0x10000 = n at h
      cases h
      obtain ⟨c, rfl⟩ := exists_char (n := n) (by omega)
      refine ⟨c, ds, low, hds, hlow, by omega, encodeChar_toNat c, ?_⟩
      rw [Decidable.not_not.mp ha, Decidable.not_not.mp hb]
      rfl
    · cases h
  · rintro ⟨c, ds, low, hds, hlow, hc, rfl, rfl⟩
    have hhex : readHex (ds ++ r) = .ok (low, r) := readHex_eq_ok_iff.mpr ⟨ds, hds, rfl⟩
    have htrailing := isTrailing_iff.mpr hlow
    have hsum : (high - 0xD800) * 0x400 + (low - 0xDC00) + 0x10000 = c.toNat := by omega
    simp [readTrailing, backslash, hhex, htrailing, hsum, encodeChar_toNat]

theorem readUnicode_eq_ok_iff {s v r : Bytes} :
    readUnicode s = .ok (v, r) ↔ ∃ c raw, Escaped c (0x75 :: raw) ∧
      v = String.utf8EncodeChar c ∧ s = raw ++ r := by
  constructor
  · intro h
    unfold readUnicode at h
    split at h
    · cases h
    rename_i n r' hhex
    obtain ⟨ds, hds, rfl⟩ := readHex_eq_ok_iff.mp hhex
    have hn := hds.lt
    split at h
    · cases h
    rename_i htrailing
    rw [isTrailing_iff] at htrailing
    split at h
    · rename_i hleading
      rw [isLeading_iff] at hleading
      obtain ⟨c, es, low, hes, hlow, hc, rfl, rfl⟩ := (readTrailing_eq_ok_iff hleading).mp h
      exact ⟨c, _, .surrogates hds hes hleading hlow hc, rfl, by simp⟩
    · rename_i hleading
      rw [isLeading_iff] at hleading
      cases h
      obtain ⟨c, rfl⟩ := exists_char (n := n) (by omega)
      exact ⟨c, ds, .hex hds, encodeChar_toNat c, rfl⟩
  · rintro ⟨c, raw, h, rfl, rfl⟩
    cases h with
    | short h => simp [shortEscapes] at h
    | hex hds =>
      have hhex : readHex (raw ++ r) = .ok (c.toNat, r) := readHex_eq_ok_iff.mpr ⟨raw, hds, rfl⟩
      have hvalid : c.toNat.isValidChar := c.valid
      rw [Nat.isValidChar] at hvalid
      have htrailing : ¬isTrailing c.toNat = true := by
        rw [isTrailing_iff]
        omega
      have hleading : ¬isLeading c.toNat = true := by
        rw [isLeading_iff]
        omega
      simp [readUnicode, hhex, htrailing, hleading, encodeChar_toNat]
    | @surrogates ds es high low hds hes hhigh hlow hc =>
      have hhex : readHex (ds ++ (0x5C :: 0x75 :: es ++ r)) = .ok (high, 0x5C :: 0x75 :: es ++ r) :=
        readHex_eq_ok_iff.mpr ⟨ds, hds, rfl⟩
      have hrest : readTrailing high (0x5C :: 0x75 :: es ++ r) =
          .ok (String.utf8EncodeChar c, r) :=
        (readTrailing_eq_ok_iff hhigh).mpr ⟨c, es, low, hes, hlow, hc, rfl, rfl⟩
      have htrailing : ¬isTrailing high = true := by
        rw [isTrailing_iff]
        omega
      have hleading := isLeading_iff.mpr hhigh
      have happend : (ds ++ 0x5C :: 0x75 :: es) ++ r = ds ++ (0x5C :: 0x75 :: es ++ r) :=
        List.append_assoc ..
      change readUnicode ((ds ++ 0x5C :: 0x75 :: es) ++ r) = _
      rw [happend, readUnicode, hhex]
      dsimp only
      rw [if_neg htrailing, if_pos hleading]
      exact hrest

theorem readEscape_eq_ok_iff {s v r : Bytes} :
    readEscape s = .ok (v, r) ↔ ∃ c raw, Escaped c raw ∧ v = String.utf8EncodeChar c ∧
      s = raw ++ r := by
  constructor
  · intro h
    unfold readEscape at h
    split at h
    · cases h
    rename_i b s
    split at h
    · rename_i hb
      obtain ⟨c, raw, hc, rfl, rfl⟩ := readUnicode_eq_ok_iff.mp h
      exact ⟨c, 0x75 :: raw, hc, rfl, by rw [hb]; rfl⟩
    · split at h
      · rename_i d hd
        cases h
        obtain ⟨c, hc, hcd⟩ := shortEscape?_eq_some_iff.mp hd
        exact ⟨c, [b], .short hc, hcd.symm, rfl⟩
      · cases h
  · rintro ⟨c, raw, h, rfl, rfl⟩
    have hunicode {raw : Bytes} (h : Escaped c (0x75 :: raw)) :
        readEscape (0x75 :: raw ++ r) = .ok (String.utf8EncodeChar c, r) := by
      rw [List.cons_append, readEscape, if_pos rfl]
      exact readUnicode_eq_ok_iff.mpr ⟨c, raw, h, rfl, rfl⟩
    cases h with
    | @short letter h =>
      have hletter : letter ≠ 0x75 := by
        rintro rfl
        simp [shortEscapes] at h
      have hc : ∃ b, String.utf8EncodeChar c = [b] := by
        simp only [shortEscapes, List.mem_cons, Prod.mk.injEq, List.not_mem_nil, or_false] at h
        rcases h with ⟨-, rfl⟩ | ⟨-, rfl⟩ | ⟨-, rfl⟩ | ⟨-, rfl⟩ | ⟨-, rfl⟩ | ⟨-, rfl⟩ | ⟨-, rfl⟩ |
          ⟨-, rfl⟩ <;> exact ⟨_, rfl⟩
      obtain ⟨b, hb⟩ := hc
      have hshort := shortEscape?_eq_some_iff.mpr ⟨c, h, hb⟩
      rw [List.cons_append, List.nil_append, readEscape, if_neg hletter, hshort, hb]
    | hex h => exact hunicode (.hex h)
    | surrogates hds hes hhigh hlow hc => exact hunicode (.surrogates hds hes hhigh hlow hc)

inductive Pieces : Bytes → Bytes → Prop
  | nil : Pieces [] []
  | byte {b : UInt8} {bytes raw : Bytes} (hquote : b ≠ quoteMark) (hbackslash : b ≠ backslash)
    (hcontrol : ¬b < 0x20) (h : Pieces bytes raw) : Pieces (b :: bytes) (b :: raw)
  | escaped {c : Char} {e bytes raw : Bytes} (he : Escaped c e) (h : Pieces bytes raw) :
    Pieces (String.utf8EncodeChar c ++ bytes) (0x5C :: e ++ raw)

theorem Pieces.readBytes {bytes raw : Bytes} (h : Pieces bytes raw) (done r : Bytes) :
    Json.readBytes done (raw ++ 0x22 :: r) = .ok (done.reverse ++ bytes, r) := by
  induction h generalizing done with
  | nil =>
    have hquote : (0x22 : UInt8) = quoteMark := rfl
    rw [List.nil_append, Json.readBytes, if_pos hquote, List.append_nil]
  | @byte b bytes raw hquote hbackslash hcontrol _ ih =>
    rw [List.cons_append, Json.readBytes, if_neg hquote, if_neg hbackslash, if_neg hcontrol, ih]
    simp
  | @escaped c e bytes raw he _ ih =>
    have hescape : readEscape (e ++ (raw ++ 0x22 :: r)) =
        .ok (String.utf8EncodeChar c, raw ++ 0x22 :: r) :=
      readEscape_eq_ok_iff.mpr ⟨c, e, he, rfl, rfl⟩
    have hbackslash : (0x5C : UInt8) = backslash := rfl
    rw [List.append_assoc, List.cons_append, Json.readBytes, if_neg (by decide),
      if_pos hbackslash]
    split
    · rename_i f hf
      rw [hescape] at hf
      cases hf
    · rename_i v r' hv
      rw [hescape] at hv
      cases hv
      rw [ih]
      simp

theorem readBytes_eq_ok_iff {done s v r : Bytes} :
    readBytes done s = .ok (v, r) ↔ ∃ bytes raw, Pieces bytes raw ∧ v = done.reverse ++ bytes ∧
      s = raw ++ 0x22 :: r := by
  constructor
  · intro h
    fun_induction readBytes done s with
    | case1 => cases h
    | case2 done s =>
      cases h
      exact ⟨[], [], .nil, by simp, rfl⟩
    | case3 => cases h
    | case4 done s c s' hescape _ _ ih =>
      obtain ⟨d, e, he, rfl, rfl⟩ := readEscape_eq_ok_iff.mp hescape
      obtain ⟨bytes, raw, hpieces, rfl, rfl⟩ := ih h
      exact ⟨_, _, .escaped he hpieces, by simp, by simp [backslash]⟩
    | case5 => cases h
    | case6 done b s hquote hbackslash hcontrol ih =>
      obtain ⟨bytes, raw, hpieces, rfl, rfl⟩ := ih h
      exact ⟨_, _, .byte hquote hbackslash hcontrol hpieces, by simp, rfl⟩
  · rintro ⟨bytes, raw, h, rfl, rfl⟩
    exact h.readBytes done r

theorem eq_of_utf8EncodeChar_append {c d : Char} {s t : Bytes}
    (h : String.utf8EncodeChar c ++ s = String.utf8EncodeChar d ++ t) : c = d ∧ s = t := by
  have hc := ByteArray.utf8DecodeChar?_utf8EncodeChar_append (b := s.toByteArray) (c := c)
  have hd := ByteArray.utf8DecodeChar?_utf8EncodeChar_append (b := t.toByteArray) (c := d)
  rw [← List.toByteArray_append] at hc hd
  rw [h, hd] at hc
  cases hc
  exact ⟨rfl, List.append_cancel_left h⟩

theorem utf8EncodeChar_of_mem {c : Char} {b : UInt8} (hb : b ∈ String.utf8EncodeChar c)
    (h : b < 0x80) : String.utf8EncodeChar c = [b] ∧ c.toNat = b.toNat := by
  have hlow (n : Nat) (hn : 0x80 ≤ n) (hlt : n < 0x100) : b ≠ UInt8.ofNat n := by
    rintro rfl
    rw [UInt8.lt_iff_toNat_lt, UInt8.toNat_ofNat_of_lt' hlt] at h
    exact absurd h (by change ¬n < 128; omega)
  unfold String.utf8EncodeChar at hb ⊢
  dsimp only at hb ⊢
  split at hb
  · rename_i hc
    have hcb := List.mem_singleton.mp hb
    rw [if_pos hc, hcb, UInt8.toNat_ofNat_of_lt' (by change _ < 256; omega)]
    exact ⟨rfl, rfl⟩
  all_goals exfalso
  split at hb
  · simp only [List.mem_cons, List.not_mem_nil, or_false] at hb
    rcases hb with hb | hb
    · exact hlow _ (by omega) (by omega) hb
    · exact hlow _ (by omega) (by omega) hb
  split at hb
  · simp only [List.mem_cons, List.not_mem_nil, or_false] at hb
    rcases hb with hb | hb | hb
    · exact hlow _ (by omega) (by omega) hb
    · exact hlow _ (by omega) (by omega) hb
    · exact hlow _ (by omega) (by omega) hb
  · simp only [List.mem_cons, List.not_mem_nil, or_false] at hb
    rcases hb with hb | hb | hb | hb
    · exact hlow _ (by omega) (by omega) hb
    · exact hlow _ (by omega) (by omega) hb
    · exact hlow _ (by omega) (by omega) hb
    · exact hlow _ (by omega) (by omega) hb

theorem exists_utf8EncodeChar_eq_cons (c : Char) :
    ∃ b tail, String.utf8EncodeChar c = b :: tail ∧ b.IsUTF8FirstByte ∧
      ∀ x ∈ tail, ¬x.IsUTF8FirstByte := by
  have hfirst (l : Bytes) (hl : String.utf8EncodeChar c = l) (i : Nat) (hi : i < l.length) :
      l[i].IsUTF8FirstByte ↔ i = 0 := by
    subst l
    exact UInt8.isUTF8FirstByte_getElem_utf8EncodeChar
  cases hl : String.utf8EncodeChar c with
  | nil => exact absurd hl String.utf8EncodeChar_ne_nil
  | cons b tail =>
    refine ⟨b, tail, rfl, (hfirst _ hl 0 (by simp)).mpr rfl, fun x hx => ?_⟩
    obtain ⟨i, hi, rfl⟩ := List.getElem_of_mem hx
    have := hfirst _ hl (i + 1) (by simpa using hi)
    simpa using this

theorem Pieces.of_continuation {tail bytes raw : Bytes} (htail : ∀ x ∈ tail, ¬x.IsUTF8FirstByte)
    (h : Pieces (tail ++ bytes) raw) : ∃ raw', raw = tail ++ raw' ∧ Pieces bytes raw' := by
  induction tail generalizing raw with
  | nil => exact ⟨raw, rfl, h⟩
  | cons x tail ih =>
    generalize hall : x :: tail ++ bytes = all at h
    cases h with
    | nil => cases hall
    | byte _ _ _ h =>
      cases hall
      obtain ⟨raw', rfl, hraw'⟩ := ih (fun y hy => htail y (List.mem_cons_of_mem _ hy)) h
      exact ⟨raw', rfl, hraw'⟩
    | @escaped c e bytes' raw' he h =>
      obtain ⟨b, rest, hb, hfirst, -⟩ := exists_utf8EncodeChar_eq_cons c
      rw [hb] at hall
      obtain rfl : x = b := (List.cons.inj hall).1
      exact absurd hfirst (htail _ List.mem_cons_self)

theorem CharWritten.of_plain {c : Char} {b : UInt8} (hb : b ∈ String.utf8EncodeChar c)
    (hquote : b ≠ quoteMark) (hbackslash : b ≠ backslash) (hcontrol : ¬b < 0x20) :
    CharWritten c (String.utf8EncodeChar c) := by
  by_cases hc : c.toNat < 0x80
  · have hencode : String.utf8EncodeChar c = [UInt8.ofNat c.toNat] := by
      have hle : c.val.toNat ≤ 0x7F := Nat.le_of_lt_succ hc
      rw [String.utf8EncodeChar]
      exact if_pos hle
    rw [hencode] at hb
    have hbc := List.mem_singleton.mp hb
    refine .plain ?_ ?_ ?_
    · rw [hbc, UInt8.lt_iff_toNat_lt, UInt8.toNat_ofNat_of_lt' (by change _ < 256; omega)]
        at hcontrol
      exact Nat.le_of_not_lt hcontrol
    · rintro rfl
      exact hquote hbc
    · rintro rfl
      exact hbackslash hbc
  · refine .plain (by omega) ?_ ?_
    · rintro rfl
      exact hc (by decide)
    · rintro rfl
      exact hc (by decide)

theorem Pieces.chars {cs : List Char} {raw : Bytes}
    (h : Pieces (cs.flatMap String.utf8EncodeChar) raw) : CharsWritten cs raw := by
  induction cs generalizing raw with
  | nil =>
    generalize hall : [].flatMap String.utf8EncodeChar = all at h
    cases h with
    | nil => exact .nil
    | byte => cases hall
    | escaped =>
      have := List.append_eq_nil_iff.mp hall.symm
      exact absurd this.1 String.utf8EncodeChar_ne_nil
  | cons c cs ih =>
    rw [List.flatMap_cons] at h
    generalize hall : String.utf8EncodeChar c ++ cs.flatMap String.utf8EncodeChar = all at h
    cases h with
    | nil =>
      have := List.append_eq_nil_iff.mp hall
      exact absurd this.1 String.utf8EncodeChar_ne_nil
    | @byte b bytes raw hquote hbackslash hcontrol h =>
      obtain ⟨b', tail, hc, -, htail⟩ := exists_utf8EncodeChar_eq_cons c
      rw [hc] at hall
      cases hall
      obtain ⟨raw', rfl, hraw'⟩ := h.of_continuation htail
      have hwritten := CharWritten.of_plain (by rw [hc]; exact List.mem_cons_self) hquote
        hbackslash hcontrol
      rw [hc] at hwritten
      exact .cons hwritten (ih hraw')
    | @escaped d e bytes raw he h =>
      obtain ⟨rfl, rfl⟩ := eq_of_utf8EncodeChar_append hall
      exact .cons (.escaped he) (ih h)

theorem Pieces.append {bs bytes raw : Bytes}
    (hbs : ∀ b ∈ bs, b ≠ quoteMark ∧ b ≠ backslash ∧ ¬b < 0x20) (h : Pieces bytes raw) :
    Pieces (bs ++ bytes) (bs ++ raw) := by
  induction bs with
  | nil => exact h
  | cons b bs ih =>
    obtain ⟨hquote, hbackslash, hcontrol⟩ := hbs b List.mem_cons_self
    exact .byte hquote hbackslash hcontrol (ih fun x hx => hbs x (List.mem_cons_of_mem _ hx))

theorem CharsWritten.pieces {cs : List Char} {raw : Bytes} (h : CharsWritten cs raw) :
    Pieces (cs.flatMap String.utf8EncodeChar) raw := by
  induction h with
  | nil => exact .nil
  | @cons c cs raw rest h _ ih =>
    rw [List.flatMap_cons]
    cases h with
    | escaped h => exact .escaped h ih
    | plain hcontrol hquote hbackslash =>
      apply Pieces.append _ ih
      intro b hb
      refine ⟨?_, ?_, ?_⟩
      · rintro rfl
        obtain ⟨-, hc⟩ := utf8EncodeChar_of_mem hb (by decide)
        exact hquote (Char.toNat_inj.mp hc)
      · rintro rfl
        obtain ⟨-, hc⟩ := utf8EncodeChar_of_mem hb (by decide)
        exact hbackslash (Char.toNat_inj.mp hc)
      · intro hlt
        have hlt' := UInt8.lt_iff_toNat_lt.mp hlt
        obtain ⟨-, hc⟩ := utf8EncodeChar_of_mem hb (UInt8.lt_trans hlt (by decide))
        rw [hc] at hcontrol
        exact absurd hlt' (Nat.not_lt.mpr hcontrol)

theorem fromUTF8?_eq_some_iff {bytes : Bytes} {s : String} :
    String.fromUTF8? bytes.toByteArray = some s ↔
      bytes = s.toList.flatMap String.utf8EncodeChar := by
  have hs : s.toByteArray = (s.toList.flatMap String.utf8EncodeChar).toByteArray := by
    have := String.toByteArray_ofList (l := s.toList)
    rwa [String.ofList_toList] at this
  have hinj (a b : Bytes) : a.toByteArray = b.toByteArray ↔ a = b := by
    refine ⟨fun h => ?_, congrArg _⟩
    have := congrArg (fun x => x.data.toList) h
    simpa using this
  rw [String.fromUTF8?]
  constructor
  · intro h
    split at h
    · cases h
      exact (hinj _ _).mp hs
    · cases h
  · rintro rfl
    have hvalid : ((s.toList.flatMap String.utf8EncodeChar).toByteArray).IsValidUTF8 :=
      hs ▸ s.isValidUTF8
    rw [dif_pos hvalid]
    exact congrArg some (String.toByteArray_inj.mp hs.symm)

theorem CharsWritten.readText {t : String} {raw : Bytes} (h : CharsWritten t.toList raw)
    (r : Bytes) : Json.readText (raw ++ 0x22 :: r) = .ok (t, r) := by
  have hutf8 := fromUTF8?_eq_some_iff (s := t).mpr rfl
  rw [Json.readText, h.pieces.readBytes]
  simp only [List.reverse_nil, List.nil_append, hutf8]

theorem readText_eq_ok_iff {s r : Bytes} {t : String} :
    readText s = .ok (t, r) ↔ ∃ raw, CharsWritten t.toList raw ∧ s = raw ++ 0x22 :: r := by
  constructor
  · intro h
    unfold readText at h
    split at h
    · cases h
    rename_i bytes r' hbytes
    obtain ⟨bytes, raw, hpieces, rfl, rfl⟩ := readBytes_eq_ok_iff.mp hbytes
    split at h
    · rename_i t' ht
      cases h
      obtain rfl := fromUTF8?_eq_some_iff.mp ht
      exact ⟨raw, hpieces.chars, rfl⟩
    · cases h
  · rintro ⟨raw, h, rfl⟩
    exact h.readText r

end CardDesk.Json
