import CardDesk.Json.Text
import CardDesk.Proofs.Json.Items
import Mathlib.Data.List.Forall2

namespace CardDesk.Json

variable {α : Type}

def bytesOf (s : String) : Bytes :=
  s.toUTF8.data.toList

theorem bytesOf_ofList (cs : List Char) :
    bytesOf (String.ofList cs) = cs.flatMap String.utf8EncodeChar := by
  rw [bytesOf, String.toUTF8, String.toByteArray_ofList]
  simp [List.utf8Encode]

theorem bytesOf_eq (s : String) : bytesOf s = s.toList.flatMap String.utf8EncodeChar := by
  rw [← bytesOf_ofList, String.ofList_toList]

theorem bytesOf_append (s t : String) : bytesOf (s ++ t) = bytesOf s ++ bytesOf t := by
  rw [bytesOf_eq, bytesOf_eq, bytesOf_eq, String.toList_append, List.flatMap_append]

section Texts

theorem hexChar_written {n : Nat} (h : n < 16) :
    ∃ b, String.utf8EncodeChar (hexChar n) = [b] ∧ HexDigit b n := by
  have hall : ∀ n < 16, String.utf8EncodeChar (hexChar n) = [UInt8.ofNat (hexChar n).toNat] ∧
      hexValue? (UInt8.ofNat (hexChar n).toNat) = some n := by decide
  obtain ⟨hencode, hvalue⟩ := hall n h
  exact ⟨_, hencode, hexValue?_eq_some_iff.mp hvalue⟩

theorem control_written {c : Char} (h : c.toNat < 0x20) :
    Escaped c (['u', '0', '0', hexChar (c.toNat / 16), hexChar (c.toNat % 16)].flatMap
      String.utf8EncodeChar) := by
  obtain ⟨b, hb, hhigh⟩ := hexChar_written (n := c.toNat / 16) (by omega)
  obtain ⟨b', hb', hlow⟩ := hexChar_written (n := c.toNat % 16) (by omega)
  have hzero : HexDigit 0x30 0 := HexDigit.digit (n := 0) (by decide)
  have hdigits := FourHexDigits.mk hzero hzero hhigh hlow
  have hc : 0 * 4096 + 0 * 256 + c.toNat / 16 * 16 + c.toNat % 16 = c.toNat := by omega
  rw [hc] at hdigits
  simp only [List.flatMap_cons, List.flatMap_nil, hb, hb']
  exact .hex hdigits

theorem escapeChar_written (c : Char) :
    CharWritten c ((escapeChar c).flatMap String.utf8EncodeChar) := by
  have hshort {letter : UInt8} (h : (letter, c) ∈ shortEscapes) : CharWritten c [0x5C, letter] :=
    .escaped (.short h)
  unfold escapeChar
  iterate 7
    split
    · subst c
      exact hshort (by decide)
  rename_i hquote hbackslash _ _ _ _ _
  split
  · rename_i hcontrol
    exact .escaped (control_written hcontrol)
  · rename_i hcontrol
    rw [List.flatMap_cons, List.flatMap_nil, List.append_nil]
    exact .plain (Nat.le_of_not_lt hcontrol) hquote hbackslash

theorem chars_written (cs : List Char) :
    CharsWritten cs ((cs.flatMap escapeChar).flatMap String.utf8EncodeChar) := by
  induction cs with
  | nil => exact .nil
  | cons c cs ih =>
    rw [List.flatMap_cons, List.flatMap_append]
    exact .cons (escapeChar_written c) ih

theorem quote_written (s : String) : TextWritten s (bytesOf (quote s)) := by
  have hquote : String.utf8EncodeChar '"' = [0x22] := by decide
  rw [quote, bytesOf_ofList, List.flatMap_append, List.flatMap_cons, List.flatMap_singleton, hquote]
  exact .mk (chars_written s.toList)

end Texts

section Numbers

theorem digit_written {c : Char} (h : c.isDigit = true) :
    ∃ b, String.utf8EncodeChar c = [b] ∧ b.toNat = c.toNat ∧ 0x30 ≤ b ∧ b ≤ 0x39 := by
  have hle : 0x30 ≤ c.toNat ∧ c.toNat ≤ 0x39 := by
    simpa [Char.isDigit, Char.le_def, UInt32.le_iff_toNat_le] using h
  have hbyte : (UInt8.ofNat c.toNat).toNat = c.toNat :=
    UInt8.toNat_ofNat_of_lt' (by change _ < 256; omega)
  refine ⟨UInt8.ofNat c.toNat, ?_, hbyte, ?_⟩
  · have hone : c.val.toNat ≤ 0x7F := Nat.le_trans hle.2 (by decide)
    rw [String.utf8EncodeChar]
    exact if_pos hone
  · rw [UInt8.le_iff_toNat_le, UInt8.le_iff_toNat_le, hbyte]
    exact hle

theorem decimalFrom_digits {cs : List Char} (h : ∀ c ∈ cs, c.isDigit = true) (n : Nat) :
    decimalFrom n (cs.flatMap String.utf8EncodeChar) = Nat.ofDigitChars 10 cs n := by
  induction cs generalizing n with
  | nil => simp [decimalFrom]
  | cons c cs ih =>
    obtain ⟨hc, hcs⟩ := List.forall_mem_cons.mp h
    obtain ⟨b, hb, hbyte, -⟩ := digit_written hc
    have ih := ih hcs (10 * n + (c.toNat - 0x30))
    rw [Nat.ofDigitChars_cons]
    rw [decimalFrom] at ih
    simpa [decimalFrom, hb, hbyte, Nat.mul_comm n] using ih

theorem bytesOf_repr (n : Nat) :
    bytesOf n.repr = (Nat.toDigits 10 n).flatMap String.utf8EncodeChar := by
  rw [bytesOf_eq, Nat.toList_repr]

theorem isDigit_of_mem_toDigits {n : Nat} : ∀ c ∈ Nat.toDigits 10 n, c.isDigit = true :=
  fun _ hc => Nat.isDigit_of_mem_toDigits (by decide) (by decide) hc

theorem exists_repr_eq_cons (n : Nat) :
    ∃ c cs b bs, Nat.toDigits 10 n = c :: cs ∧ bytesOf n.repr = b :: bs ∧ b.toNat = c.toNat := by
  obtain ⟨c, cs, hcs⟩ := List.exists_cons_of_ne_nil (Nat.toDigits_ne_nil (n := n) (b := 10))
  obtain ⟨b, hb, hbyte, -⟩ :=
    digit_written (isDigit_of_mem_toDigits c (by rw [hcs]; exact List.mem_cons_self))
  refine ⟨c, cs, b, cs.flatMap String.utf8EncodeChar, hcs, ?_, hbyte⟩
  rw [bytesOf_repr, hcs, List.flatMap_cons, hb]
  rfl

theorem repr_digits (n : Nat) : Digits (bytesOf n.repr) := by
  constructor
  · obtain ⟨-, -, b, bs, -, hbytes, -⟩ := exists_repr_eq_cons n
    simp [hbytes]
  · intro b hb
    rw [bytesOf_repr] at hb
    obtain ⟨c, hc, hb⟩ := List.mem_flatMap.mp hb
    obtain ⟨b', hb', -, hdigit⟩ := digit_written (isDigit_of_mem_toDigits c hc)
    rw [hb'] at hb
    rwa [List.mem_singleton.mp hb]

theorem decimal_repr (n : Nat) : decimal (bytesOf n.repr) = n := by
  rw [decimal, bytesOf_repr, decimalFrom_digits isDigit_of_mem_toDigits,
    Nat.ofDigitChars_ten_toDigits]

theorem head_toDigits {n : Nat} (h : 0 < n) : (Nat.toDigits 10 n).head? ≠ some '0' := by
  induction n using Nat.strongRecOn with
  | ind n ih =>
    by_cases hn : n < 10
    · have hall : ∀ n < 10, 0 < n → [n.digitChar].head? ≠ some '0' := by decide
      rw [Nat.toDigits_of_lt_base hn]
      exact hall n hn h
    · have hrest := ih (n / 10) (by omega) (by omega)
      obtain ⟨c, cs, hcs⟩ :=
        List.exists_cons_of_ne_nil (Nat.toDigits_ne_nil (n := n / 10) (b := 10))
      rw [Nat.toDigits_of_base_le (by decide) (by omega), hcs]
      rw [hcs] at hrest
      exact hrest

theorem repr_plain (n : Nat) (h : (bytesOf n.repr).head? = some 0x30) :
    bytesOf n.repr = [0x30] := by
  cases n with
  | zero => decide
  | succ n =>
    obtain ⟨c, cs, b, bs, hcs, hbytes, hbyte⟩ := exists_repr_eq_cons (n + 1)
    have hhead := head_toDigits (Nat.succ_pos n)
    rw [hbytes] at h
    rw [hcs] at hhead
    cases h
    exact absurd (congrArg some (Char.toNat_inj.mp hbyte.symm)) hhead

def Literal.ofInt (n : Int) : Literal where
  negative := n < 0
  whole := bytesOf n.natAbs.repr
  fraction := none
  exponent := none
  whole_digits := repr_digits _
  whole_plain := repr_plain _
  fraction_digits := by simp
  exponent_mark := by simp
  exponent_digits := by simp

theorem Literal.integer?_ofInt (n : Int) : (ofInt n).integer? = some n := by
  have hdecimal : decimal (ofInt n).whole = n.natAbs := decimal_repr _
  have hvalue : (ofInt n).integer? =
      if (ofInt n).negative then
        if (ofInt n).whole = [0x30] then none else some (-(decimal (ofInt n).whole : Int))
      else some (decimal (ofInt n).whole) := rfl
  rw [hvalue, hdecimal]
  by_cases hn : n < 0
  · have hnegative : (ofInt n).negative = true := decide_eq_true hn
    have hwhole : (ofInt n).whole ≠ [0x30] := by
      intro h
      have hzero : decimal [0x30] = 0 := by decide
      rw [h, hzero] at hdecimal
      omega
    rw [if_pos hnegative, if_neg hwhole]
    congr 1
    omega
  · have hnegative : ¬(ofInt n).negative = true := by simpa [ofInt] using hn
    rw [if_neg hnegative]
    congr 1
    omega

theorem Literal.bytes_ofInt (n : Int) : (ofInt n).bytes = bytesOf (toString n) := by
  have hwhole : (ofInt n).whole = bytesOf n.natAbs.repr := rfl
  rw [bytes_of_integer (integer?_ofInt n), Int.toString_eq_repr, Int.repr_eq_if, hwhole]
  by_cases hn : n < 0
  · have hnegative : (ofInt n).negative = true := decide_eq_true hn
    have hminus : bytesOf "-" = [0x2D] := by decide
    have habs : (-n).toNat = n.natAbs := by omega
    rw [if_pos hnegative, if_neg (by omega), bytesOf_append, hminus, habs]
    rfl
  · have hnegative : ¬(ofInt n).negative = true := by simpa [ofInt] using hn
    have habs : n.toNat = n.natAbs := by omega
    rw [if_neg hnegative, if_pos (by omega), habs]

end Numbers

section Items

theorem inside_intercalate {P : α → Bytes → Prop} {items : List String} {as : List α}
    (h : List.Forall₂ (fun s a => P a (bytesOf s)) items as) :
    Inside P as (bytesOf (",".intercalate items)) := by
  have hcomma : bytesOf "," = [0x2C] := by decide
  induction h with
  | nil => exact .inr ⟨rfl, Blank.nil⟩
  | @cons item a items as h hitems ih =>
    left
    cases hitems with
    | nil =>
      rw [String.intercalate_singleton]
      exact separated_cons_iff.mpr ⟨[], _, [], Blank.nil, h, .nothing Blank.nil, by simp⟩
    | cons =>
      obtain hrest | ⟨⟨⟩, -⟩ := ih
      rw [String.intercalate_cons_cons, bytesOf_append, bytesOf_append, hcomma]
      exact separated_cons_iff.mpr ⟨[], _, _, Blank.nil, h, .more Blank.nil hrest, by simp⟩

theorem list_written {items : List String} {vs : List Value}
    (h : List.Forall₂ (fun s v => Written v (bytesOf s)) items vs) :
    Written (.list vs) (bytesOf (list items)) := by
  have hopen : bytesOf "[" = [0x5B] := by decide
  have hclose : bytesOf "]" = [0x5D] := by decide
  rw [list, bytesOf_append, bytesOf_append, hopen, hclose]
  exact written_list_iff_inside.mpr ⟨_, rfl, inside_intercalate h⟩

theorem member_written {key value : String} {v : Value} (h : Written v (bytesOf value)) :
    MemberWritten (key, v) (bytesOf (quote key ++ ":" ++ value)) := by
  have hcolon : bytesOf ":" = [0x3A] := by decide
  have hmember := MemberWritten.mk (quote_written key) Blank.nil Blank.nil h
  rw [bytesOf_append, bytesOf_append, hcolon]
  simpa using hmember

theorem object_written {members : List (String × String)} {ms : List (String × Value)}
    (h : List.Forall₂ (fun m n => m.1 = n.1 ∧ Written n.2 (bytesOf m.2)) members ms) :
    Written (.object ms) (bytesOf (object members)) := by
  have hopen : bytesOf "\x7b" = [0x7B] := by decide
  have hclose : bytesOf "\x7d" = [0x7D] := by decide
  rw [object, bytesOf_append, bytesOf_append, hopen, hclose]
  refine written_object_iff.mpr ⟨_, rfl, inside_intercalate (List.forall₂_map_left_iff.mpr ?_)⟩
  apply h.imp
  rintro ⟨key, value⟩ ⟨key', v⟩ ⟨rfl, hv⟩
  exact member_written hv

end Items

end CardDesk.Json
