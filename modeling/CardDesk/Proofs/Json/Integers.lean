import CardDesk.Json.Scalar
import CardDesk.Proofs.Json.Grammar

namespace CardDesk.Json

theorem digit?_eq_some_iff {b : UInt8} {d : Nat} :
    digit? b = some d ↔ (0x30 ≤ b ∧ b ≤ 0x39) ∧ d = b.toNat - 0x30 := by
  rw [digit?]
  split
  · rename_i hb
    simp only [Option.some.injEq, hb, true_and]
    exact eq_comm
  · rename_i hb
    simp [hb]

theorem isDigit_iff {b : UInt8} : isDigit b = true ↔ 0x30 ≤ b ∧ b ≤ 0x39 := by
  rw [isDigit, digit?]
  split <;> simp [*]

section Doubles

variable {positive : Bool} {n : Nat} {s r : Bytes} {v : Number}

theorem floatOf_toInt32? {e : Int} (h : floatOf positive n e s = .ok (v, r)) :
    v.toInt32? = none := by
  unfold floatOf at h
  split at h
  · cases h
    rfl
  · cases h

theorem readExponentDigits_toInt32? {start : Int} {up : Bool} {exponent : Nat}
    (h : readExponentDigits positive n start up exponent s = .ok (v, r)) : v.toInt32? = none := by
  induction s generalizing exponent with
  | nil => exact floatOf_toInt32? h
  | cons b t ih =>
    rw [readExponentDigits] at h
    split at h
    · exact floatOf_toInt32? h
    split at h
    · split at h
      · cases h
      · cases h
        rfl
    · exact ih h

theorem readExponent_toInt32? {start : Int} (h : readExponent positive n start s = .ok (v, r)) :
    v.toInt32? = none := by
  unfold readExponent at h
  split at h
  split at h
  · cases h
  split at h
  · cases h
  · exact readExponentDigits_toInt32? h

theorem readAfterDigits_toInt32? {e : Int} (h : readAfterDigits positive n e s = .ok (v, r)) :
    v.toInt32? = none := by
  unfold readAfterDigits at h
  split at h
  · exact floatOf_toInt32? h
  split at h
  · exact readExponent_toInt32? h
  · exact floatOf_toInt32? h

theorem readFraction_toInt32? {fresh : Bool} {e : Int}
    (h : readFraction positive fresh n e s = .ok (v, r)) : v.toInt32? = none := by
  induction s generalizing fresh n e with
  | nil =>
    rw [readFraction] at h
    split at h
    · cases h
    · exact readAfterDigits_toInt32? h
  | cons b t ih =>
    rw [readFraction] at h
    split at h
    · split at h
      · exact readAfterDigits_toInt32? h
      · exact ih h
    · split at h
      · cases h
      · exact readAfterDigits_toInt32? h

theorem readLong_toInt32? {e : Int} (h : readLong positive n e s = .ok (v, r)) :
    v.toInt32? = none := by
  induction s generalizing e with
  | nil => exact floatOf_toInt32? h
  | cons b t ih =>
    rw [readLong] at h
    split at h
    · exact ih h
    split at h
    · exact readFraction_toInt32? h
    split at h
    · exact readExponent_toInt32? h
    · exact floatOf_toInt32? h

end Doubles

def Delimited (s : Bytes) : Prop :=
  ∀ b ∈ s.head?, isDigit b = false ∧ b ≠ 0x2E ∧ isExponentMark b = false

theorem le_decimalFrom (n : Nat) (ds : Bytes) : n ≤ decimalFrom n ds := by
  induction ds generalizing n with
  | nil => exact Nat.le_refl n
  | cons b ds ih =>
    have := ih (n * 10 + (b.toNat - 0x30))
    rw [decimalFrom, List.foldl_cons]
    rw [decimalFrom] at this
    omega

theorem readWhole_sound {positive : Bool} {n : Nat} {s r : Bytes} {v : Number} {i : Int32}
    (h : readWhole positive n s = .ok (v, r)) (hv : v.toInt32? = some i) :
    ∃ ds : Bytes, (∀ b ∈ ds, 0x30 ≤ b ∧ b ≤ 0x39) ∧ s = ds ++ r ∧
      v = whole positive (decimalFrom n ds) := by
  have hdouble {x : Number} (hx : x.toInt32? = none) (hxv : x = v) : False := by
    rw [hxv, hv] at hx
    cases hx
  induction s generalizing n with
  | nil =>
    rw [readWhole] at h
    cases h
    exact ⟨[], by simp, rfl, rfl⟩
  | cons b t ih =>
    rw [readWhole] at h
    split at h
    · rename_i d hd
      obtain ⟨hb, rfl⟩ := digit?_eq_some_iff.mp hd
      split at h
      · exact (hdouble (readLong_toInt32? h) rfl).elim
      · obtain ⟨ds, hds, rfl, rfl⟩ := ih h
        exact ⟨b :: ds, List.forall_mem_cons.mpr ⟨hb, hds⟩, rfl, rfl⟩
    split at h
    · exact (hdouble (readFraction_toInt32? h) rfl).elim
    split at h
    · exact (hdouble (readExponent_toInt32? h) rfl).elim
    · cases h
      exact ⟨[], by simp, rfl, rfl⟩

theorem readWhole_complete (positive : Bool) {n : Nat} {ds r : Bytes}
    (hds : ∀ b ∈ ds, 0x30 ≤ b ∧ b ≤ 0x39) (hmax : decimalFrom n ds ≤ maxNatural)
    (hr : Delimited r) :
    readWhole positive n (ds ++ r) = .ok (whole positive (decimalFrom n ds), r) := by
  induction ds generalizing n with
  | nil =>
    cases r with
    | nil => rfl
    | cons b r =>
      obtain ⟨hdigit, hpoint, hexponent⟩ := hr b rfl
      have hnone : digit? b = none := by
        rwa [isDigit, Option.isSome_eq_false_iff, Option.isNone_iff_eq_none] at hdigit
      rw [List.nil_append, readWhole, hnone]
      simp [hpoint, hexponent, decimalFrom]
  | cons b ds ih =>
    obtain ⟨hb, hds⟩ := List.forall_mem_cons.mp hds
    have hd := digit?_eq_some_iff.mpr ⟨hb, rfl⟩
    have hle := le_decimalFrom (n * 10 + (b.toNat - 0x30)) ds
    have hrest := ih hds hmax
    rw [List.cons_append, readWhole, hd]
    dsimp only
    rw [if_neg (Nat.not_lt.mpr (Nat.le_trans hle hmax)), hrest]
    rfl

theorem decimal_eq_zero_iff {ds : Bytes} (hds : Digits ds)
    (hplain : ds.head? = some 0x30 → ds = [0x30]) : decimal ds = 0 ↔ ds = [0x30] := by
  constructor
  · intro h
    obtain ⟨hne, hall⟩ := hds
    cases ds with
    | nil => exact absurd rfl hne
    | cons b ds =>
      obtain ⟨hb, -⟩ := List.forall_mem_cons.mp hall
      have hle := le_decimalFrom (0 * 10 + (b.toNat - 0x30)) ds
      have hge := UInt8.le_iff_toNat_le.mp hb.1
      have hzero : decimalFrom (0 * 10 + (b.toNat - 0x30)) ds = 0 := h
      apply hplain
      rw [List.head?_cons, Option.some.injEq]
      apply UInt8.toNat_inj.mp
      change 0x30 ≤ b.toNat at hge
      change b.toNat = 0x30
      omega
  · rintro rfl
    rfl

theorem readNumber_sound {positive : Bool} {s r : Bytes} {v : Number} {i : Int32}
    (h : readNumber positive s = .ok (v, r)) (hv : v.toInt32? = some i) :
    ∃ ds, Digits ds ∧ (ds.head? = some 0x30 → ds = [0x30]) ∧ s = ds ++ r ∧
      v = whole positive (decimal ds) := by
  have hzero : Digits [0x30] := ⟨by simp, by simp⟩
  unfold readNumber at h
  split at h
  · cases h
  rename_i b t
  split at h
  · rename_i hb
    subst b
    -- A zero may only stand alone, so that nothing is read behind it.
    split at h
    · rename_i c t
      split at h
      · cases h
      rename_i hc
      obtain ⟨ds, hds, heq, rfl⟩ := readWhole_sound h hv
      cases ds with
      | nil =>
        rw [heq]
        exact ⟨[0x30], hzero, fun _ => rfl, rfl, rfl⟩
      | cons d ds =>
        obtain ⟨hd, -⟩ := List.forall_mem_cons.mp hds
        obtain rfl : c = d := (List.cons.inj heq).1
        exact absurd (isDigit_iff.mpr hd) hc
    · cases h
      exact ⟨[0x30], hzero, fun _ => rfl, rfl, rfl⟩
  rename_i hb
  split at h
  · rename_i d hd
    obtain ⟨hdigit, rfl⟩ := digit?_eq_some_iff.mp hd
    obtain ⟨ds, hds, rfl, rfl⟩ := readWhole_sound h hv
    refine ⟨b :: ds, ⟨by simp, List.forall_mem_cons.mpr ⟨hdigit, hds⟩⟩, ?_, rfl, ?_⟩
    · intro hhead
      exact absurd (Option.some.inj hhead) hb
    · simp [decimal, decimalFrom]
  · cases h

theorem readNumber_complete (positive : Bool) {ds r : Bytes} (hds : Digits ds)
    (hplain : ds.head? = some 0x30 → ds = [0x30]) (hmax : decimal ds ≤ maxNatural)
    (hr : Delimited r) : readNumber positive (ds ++ r) = .ok (whole positive (decimal ds), r) := by
  obtain ⟨hne, hall⟩ := hds
  cases ds with
  | nil => exact absurd rfl hne
  | cons b ds =>
    obtain ⟨hb, hds⟩ := List.forall_mem_cons.mp hall
    by_cases hzero : b = 0x30
    · subst b
      cases hplain rfl
      have hwhole : readWhole positive 0 ([] ++ r) = .ok (whole positive (decimalFrom 0 []), r) :=
        readWhole_complete positive (by simp) (by decide) hr
      cases r with
      | nil => exact hwhole
      | cons c r =>
        obtain ⟨hdigit, -⟩ := hr c rfl
        rw [List.cons_append, readNumber.eq_def]
        simp only [List.nil_append, hdigit]
        exact hwhole
    · have hd := digit?_eq_some_iff.mpr ⟨hb, rfl⟩
      have hdecimal : decimal (b :: ds) = decimalFrom (b.toNat - 0x30) ds := by
        simp [decimal, decimalFrom]
      rw [hdecimal] at hmax ⊢
      rw [List.cons_append, readNumber.eq_def]
      dsimp only
      rw [if_neg hzero, hd]
      exact readWhole_complete positive hds hmax hr

theorem whole_toInt32?_eq_some_iff {positive : Bool} {n : Nat} {i : Int32} :
    (whole positive n).toInt32? = some i ↔
      if positive then (n : Int) = i.toInt else n ≠ 0 ∧ -(n : Int) = i.toInt := by
  have hle : i.toInt ≤ 2147483647 := i.toInt_le
  have hge : -2147483648 ≤ i.toInt := i.le_toInt
  cases positive with
  | true =>
    rw [whole, if_pos rfl, if_pos rfl, Number.toInt32?]
    split
    · rename_i hn
      have hint : (Int32.ofNat n).toInt = n := Int32.toInt_ofNat_of_lt (by omega)
      rw [Option.some.injEq, ← Int32.toInt_inj, hint]
    · simp only [reduceCtorEq, false_iff]
      omega
  | false =>
    rw [whole, if_neg Bool.false_ne_true, if_neg Bool.false_ne_true]
    split
    · simp only [Number.toInt32?, reduceCtorEq, false_iff]
      omega
    · rw [Number.toInt32?]
      split
      · rename_i hn
        have hint : (Int32.ofInt (-n)).toInt = -n :=
          Int32.toInt_ofInt_of_le (by change -2147483648 ≤ _; omega)
            (by change _ < 2147483648; omega)
        rw [Option.some.injEq, ← Int32.toInt_inj, hint]
        exact ⟨fun h => ⟨by omega, h⟩, fun h => h.2⟩
      · simp only [reduceCtorEq, false_iff]
        omega

theorem Literal.bytes_of_integer {l : Literal} {n : Int} (h : l.integer? = some n) :
    l.bytes = if l.negative then 0x2D :: l.whole else l.whole := by
  rw [integer?] at h
  split at h
  · rename_i hfraction hexponent
    rw [bytes, hfraction, hexponent]
    cases l.negative <;> simp
  · cases h

theorem integer?_eq_some_iff {l : Literal} (hfraction : l.fraction = none)
    (hexponent : l.exponent = none) {i : Int32} :
    l.integer? = some i.toInt ↔ (whole (!l.negative) (decimal l.whole)).toInt32? = some i := by
  rw [whole_toInt32?_eq_some_iff, Literal.integer?, hfraction, hexponent]
  have hzero := decimal_eq_zero_iff l.whole_digits l.whole_plain
  cases l.negative with
  | true =>
    by_cases hw : l.whole = [0x30]
    · have hzero : decimal [0x30] = 0 := rfl
      simp [hw, hzero]
    · simp [hw, hzero]
  | false => simp

theorem int32OfNumber_eq_ok_iff {x : Except Fault (Number × Bytes)} {r : Bytes} {i : Int32} :
    int32OfNumber x = .ok (i, r) ↔ ∃ v, x = .ok (v, r) ∧ v.toInt32? = some i := by
  rcases x with f | ⟨v, t⟩
  · simp [int32OfNumber]
  · rw [int32OfNumber]
    unfold Number.int32
    cases hv : v.toInt32? with
    | some j => grind
    | none =>
      have hne : ¬∃ w, (.ok (v, t) : Except Fault (Number × Bytes)) = .ok (w, r) ∧
          w.toInt32? = some i := by
        rintro ⟨w, hw, hi⟩
        cases hw
        rw [hv] at hi
        cases hi
      refine iff_of_false ?_ hne
      cases v <;> nofun

theorem int32OfNumber_sound {positive : Bool} {s r : Bytes} {i : Int32}
    (h : int32OfNumber (readNumber positive s) = .ok (i, r)) :
    ∃ l : Literal, l.integer? = some i.toInt ∧ l.negative = !positive ∧ s = l.whole ++ r := by
  obtain ⟨v, hnumber, hv⟩ := int32OfNumber_eq_ok_iff.mp h
  obtain ⟨ds, hds, hplain, rfl, rfl⟩ := readNumber_sound hnumber hv
  refine ⟨⟨!positive, ds, none, none, hds, hplain, by simp, by simp, by simp⟩, ?_, rfl, rfl⟩
  rw [integer?_eq_some_iff rfl rfl, Bool.not_not]
  exact hv

theorem int32OfNumber_complete {l : Literal} {r : Bytes} {i : Int32}
    (h : l.integer? = some i.toInt) (hr : Delimited r) :
    int32OfNumber (readNumber (!l.negative) (l.whole ++ r)) = .ok (i, r) := by
  have hle : i.toInt ≤ 2147483647 := i.toInt_le
  have hge : -2147483648 ≤ i.toInt := i.le_toInt
  have hparts : l.fraction = none ∧ l.exponent = none ∧ decimal l.whole ≤ maxNatural := by
    rw [Literal.integer?] at h
    split at h
    · rename_i hfraction hexponent
      refine ⟨hfraction, hexponent, ?_⟩
      change _ ≤ 18446744073709551615
      split at h
      · split at h
        · cases h
        · have := Option.some.inj h
          omega
      · have := Option.some.inj h
        omega
    · cases h
  obtain ⟨hfraction, hexponent, hmax⟩ := hparts
  rw [int32OfNumber_eq_ok_iff]
  refine ⟨_, readNumber_complete _ l.whole_digits l.whole_plain hmax hr, ?_⟩
  exact (integer?_eq_some_iff hfraction hexponent).mp h

end CardDesk.Json
