import CardDesk.Json.Fault

/-!
Numbers of a JSON text. A literal without fraction and exponent is an integer as long as 64 bits
hold it; any other literal is a double, found from the first digits that 64 bits hold and a power
of ten.
-/

namespace CardDesk.Json

inductive Number where
  | natural (n : Nat)
  | negative (n : Nat)
  | float (x : Double)
  deriving DecidableEq, Repr

def Number.found : Number → Found
  | natural n => .integer n
  | negative n => .integer (-n)
  | float x => .float x

def digit? (b : UInt8) : Option Nat :=
  if 0x30 ≤ b ∧ b ≤ 0x39 then some (b.toNat - 0x30) else none

def isDigit (b : UInt8) : Bool :=
  (digit? b).isSome

def isExponentMark (b : UInt8) : Bool :=
  b == 0x65 || b == 0x45

def maxNatural : Nat := 18446744073709551615

/-- The double for `x * 10 ^ e`, or nothing where it is too large. It is found by one product or
quotient with a power of ten, which below `10 ^ -308` follows further quotients. -/
def scaleTen (x : Double) (e : Int) : Option Double :=
  if e.natAbs ≤ 308 then
    if 0 ≤ e then
      let y := x.mul (Double.tenPow e.natAbs)
      if y.isInfinite then none else some y
    else some (x.div (Double.tenPow e.natAbs))
  else if x.isZero then some x
  else if 0 ≤ e then none
  else scaleTen (x.div (Double.tenPow 308)) (e + 308)
termination_by e.natAbs
decreasing_by omega

def withSign (positive : Bool) (x : Double) : Double :=
  if positive then x else x.neg

def floatOf (positive : Bool) (n : Nat) (e : Int) (rest : Bytes) :
    Except Fault (Number × Bytes) :=
  match scaleTen (Double.ofNat n) e with
  | some x => .ok (.float (withSign positive x), rest)
  | none => .error ⟨.numberOutOfRange, rest⟩

def dropDigits : Bytes → Bytes
  | [] => []
  | b :: r => if isDigit b then dropDigits r else b :: r

def readExponentDigits (positive : Bool) (n : Nat) (start : Int) (up : Bool) (exponent : Nat) :
    Bytes → Except Fault (Number × Bytes)
  | [] => floatOf positive n (if up then start + exponent else start - exponent) []
  | b :: r =>
    match digit? b with
    | none => floatOf positive n (if up then start + exponent else start - exponent) (b :: r)
    | some d =>
      if 2147483647 < exponent * 10 + d then
        if n ≠ 0 ∧ up then .error ⟨.numberOutOfRange, r⟩
        else .ok (.float (withSign positive (.ofNat 0)), dropDigits r)
      else readExponentDigits positive n start up (exponent * 10 + d) r

def readExponent (positive : Bool) (n : Nat) (start : Int) (s : Bytes) :
    Except Fault (Number × Bytes) :=
  let (up, s) := match s with
    | 0x2B :: r => (true, r)
    | 0x2D :: r => (false, r)
    | s => (true, s)
  match s with
  | [] => .error ⟨.eofInValue, []⟩
  | b :: r =>
    match digit? b with
    | none => .error ⟨.invalidNumber, r⟩
    | some d => readExponentDigits positive n start up d r

def readAfterDigits (positive : Bool) (n : Nat) (e : Int) : Bytes → Except Fault (Number × Bytes)
  | [] => floatOf positive n e []
  | b :: r =>
    if isExponentMark b then readExponent positive n e r else floatOf positive n e (b :: r)

def readFraction (positive : Bool) (fresh : Bool) (n : Nat) (e : Int) :
    Bytes → Except Fault (Number × Bytes)
  | [] => if fresh then .error ⟨.eofInValue, []⟩ else readAfterDigits positive n e []
  | b :: r =>
    match digit? b with
    | some d =>
      if maxNatural < n * 10 + d then readAfterDigits positive n e (dropDigits r)
      else readFraction positive false (n * 10 + d) (e - 1) r
    | none =>
      if fresh then .error ⟨.invalidNumber, r⟩ else readAfterDigits positive n e (b :: r)

def readLong (positive : Bool) (n : Nat) (e : Int) : Bytes → Except Fault (Number × Bytes)
  | [] => floatOf positive n e []
  | b :: r =>
    if isDigit b then readLong positive n (e + 1) r
    else if b = 0x2E then readFraction positive true n e r
    else if isExponentMark b then readExponent positive n e r
    else floatOf positive n e (b :: r)

def whole (positive : Bool) (n : Nat) : Number :=
  if positive then .natural n
  else if n = 0 ∨ 9223372036854775808 < n then .float (Double.ofNat n).neg
  else .negative n

def readWhole (positive : Bool) (n : Nat) : Bytes → Except Fault (Number × Bytes)
  | [] => .ok (whole positive n, [])
  | b :: r =>
    match digit? b with
    | some d =>
      if maxNatural < n * 10 + d then readLong positive n 1 r
      else readWhole positive (n * 10 + d) r
    | none =>
      if b = 0x2E then readFraction positive true n 0 r
      else if isExponentMark b then readExponent positive n 0 r
      else .ok (whole positive n, b :: r)

def readNumber (positive : Bool) : Bytes → Except Fault (Number × Bytes)
  | [] => .error ⟨.eofInValue, []⟩
  | b :: r =>
    if b = 0x30 then
      match r with
      | c :: t => if isDigit c then .error ⟨.invalidNumber, t⟩ else readWhole positive 0 (c :: t)
      | [] => readWhole positive 0 []
    else match digit? b with
      | some d => readWhole positive d r
      | none => .error ⟨.invalidNumber, r⟩

def skipExponent (s : Bytes) : Except Fault Bytes :=
  let s := match s with
    | 0x2B :: r => r
    | 0x2D :: r => r
    | s => s
  match s with
  | [] => .error ⟨.invalidNumber, []⟩
  | b :: r => if isDigit b then .ok (dropDigits r) else .error ⟨.invalidNumber, r⟩

def skipAfterDigits : Bytes → Except Fault Bytes
  | [] => .ok []
  | b :: r => if isExponentMark b then skipExponent r else .ok (b :: r)

def skipAfterWhole : Bytes → Except Fault Bytes
  | [] => .ok []
  | b :: r =>
    if b = 0x2E then
      match r with
      | [] => .error ⟨.invalidNumber, []⟩
      | c :: t => if isDigit c then skipAfterDigits (dropDigits t) else .error ⟨.invalidNumber, t⟩
    else if isExponentMark b then skipExponent r
    else .ok (b :: r)

def skipNumber : Bytes → Except Fault Bytes
  | [] => .error ⟨.invalidNumber, []⟩
  | b :: r =>
    if b = 0x30 then
      match r with
      | c :: t => if isDigit c then .error ⟨.invalidNumber, t⟩ else skipAfterWhole (c :: t)
      | [] => .ok []
    else if isDigit b then skipAfterWhole (dropDigits r)
    else .error ⟨.invalidNumber, r⟩

theorem dropDigits_length (s : Bytes) : (dropDigits s).length ≤ s.length := by
  induction s with
  | nil => simp [dropDigits]
  | cons b r ih =>
    unfold dropDigits
    split
    · simp only [List.length_cons]
      omega
    · simp

theorem floatOf_rest {positive : Bool} {n : Nat} {e : Int} {s r : Bytes} {v : Number}
    (h : floatOf positive n e s = .ok (v, r)) : r = s := by
  unfold floatOf at h
  split at h <;> simp_all

theorem readExponentDigits_length {positive : Bool} {n : Nat} {start : Int} {up : Bool}
    {exponent : Nat} {s r : Bytes} {v : Number}
    (h : readExponentDigits positive n start up exponent s = .ok (v, r)) :
    r.length ≤ s.length := by
  induction s generalizing exponent with
  | nil =>
    rw [readExponentDigits] at h
    simp [floatOf_rest h]
  | cons b t ih =>
    rw [readExponentDigits] at h
    split at h
    · simp [floatOf_rest h]
    · split at h
      · split at h
        · simp at h
        · simp only [Except.ok.injEq, Prod.mk.injEq] at h
          have := dropDigits_length t
          simp only [List.length_cons, ← h.2]
          omega
      · have := ih h
        simp only [List.length_cons]
        omega

theorem readExponent_length {positive : Bool} {n : Nat} {start : Int} {s r : Bytes} {v : Number}
    (h : readExponent positive n start s = .ok (v, r)) : r.length ≤ s.length := by
  unfold readExponent at h
  split at h
  rename_i up t ht
  have hlen : t.length ≤ s.length := by
    split at ht <;> simp only [Prod.mk.injEq] at ht <;> simp [← ht.2]
  split at h
  · simp at h
  · split at h
    · simp at h
    · have := readExponentDigits_length h
      simp only [List.length_cons] at hlen
      omega

theorem readAfterDigits_length {positive : Bool} {n : Nat} {e : Int} {s r : Bytes} {v : Number}
    (h : readAfterDigits positive n e s = .ok (v, r)) : r.length ≤ s.length := by
  unfold readAfterDigits at h
  split at h
  · simp [floatOf_rest h]
  · split at h
    · have := readExponent_length h
      simp only [List.length_cons]
      omega
    · simp [floatOf_rest h]

theorem readFraction_length {positive fresh : Bool} {n : Nat} {e : Int} {s r : Bytes} {v : Number}
    (h : readFraction positive fresh n e s = .ok (v, r)) : r.length ≤ s.length := by
  induction s generalizing fresh n e with
  | nil =>
    rw [readFraction] at h
    split at h
    · simp at h
    · exact readAfterDigits_length h
  | cons b t ih =>
    rw [readFraction] at h
    split at h
    · split at h
      · have := readAfterDigits_length h
        have := dropDigits_length t
        simp only [List.length_cons]
        omega
      · have := ih h
        simp only [List.length_cons]
        omega
    · split at h
      · simp at h
      · exact readAfterDigits_length h

theorem readLong_length {positive : Bool} {n : Nat} {e : Int} {s r : Bytes} {v : Number}
    (h : readLong positive n e s = .ok (v, r)) : r.length ≤ s.length := by
  induction s generalizing e with
  | nil =>
    rw [readLong] at h
    simp [floatOf_rest h]
  | cons b t ih =>
    rw [readLong] at h
    simp only [List.length_cons]
    split at h
    · have := ih h
      omega
    · split at h
      · have := readFraction_length h
        omega
      · split at h
        · have := readExponent_length h
          omega
        · simp [floatOf_rest h]

theorem readWhole_length {positive : Bool} {n : Nat} {s r : Bytes} {v : Number}
    (h : readWhole positive n s = .ok (v, r)) : r.length ≤ s.length := by
  induction s generalizing n with
  | nil =>
    rw [readWhole] at h
    simp only [Except.ok.injEq, Prod.mk.injEq] at h
    simp [← h.2]
  | cons b t ih =>
    rw [readWhole] at h
    simp only [List.length_cons]
    split at h
    · split at h
      · have := readLong_length h
        omega
      · have := ih h
        omega
    · split at h
      · have := readFraction_length h
        omega
      · split at h
        · have := readExponent_length h
          omega
        · simp only [Except.ok.injEq, Prod.mk.injEq] at h
          simp [← h.2]

theorem readNumber_length {positive : Bool} {s r : Bytes} {v : Number}
    (h : readNumber positive s = .ok (v, r)) : r.length < s.length := by
  unfold readNumber at h
  split at h
  · simp at h
  · simp only [List.length_cons]
    split at h
    · split at h
      · split at h
        · simp at h
        · have := readWhole_length h
          omega
      · have := readWhole_length h
        omega
    · split at h
      · have := readWhole_length h
        omega
      · simp at h

theorem skipExponent_length {s r : Bytes} (h : skipExponent s = .ok r) :
    r.length ≤ s.length := by
  unfold skipExponent at h
  generalize ht : (match s with
    | 0x2B :: r => r
    | 0x2D :: r => r
    | s => s) = t at h
  have hlen : t.length ≤ s.length := by
    split at ht <;> simp [← ht]
  cases t with
  | nil => simp at h
  | cons b t =>
    simp only at h
    split at h
    · simp only [Except.ok.injEq] at h
      have := dropDigits_length t
      simp only [List.length_cons] at hlen
      rw [← h]
      omega
    · simp at h

theorem skipAfterDigits_length {s r : Bytes} (h : skipAfterDigits s = .ok r) :
    r.length ≤ s.length := by
  unfold skipAfterDigits at h
  split at h
  · simp_all
  · split at h
    · have := skipExponent_length h
      simp only [List.length_cons]
      omega
    · simp_all

theorem skipAfterWhole_length {s r : Bytes} (h : skipAfterWhole s = .ok r) :
    r.length ≤ s.length := by
  unfold skipAfterWhole at h
  split at h
  · simp_all
  · simp only [List.length_cons]
    split at h
    · split at h
      · simp at h
      · rename_i c t
        split at h
        · have := skipAfterDigits_length h
          have := dropDigits_length t
          simp only [List.length_cons]
          omega
        · simp at h
    · split at h
      · have := skipExponent_length h
        omega
      · simp only [Except.ok.injEq] at h
        simp [← h]

theorem skipNumber_length {s r : Bytes} (h : skipNumber s = .ok r) : r.length < s.length := by
  unfold skipNumber at h
  split at h
  · simp at h
  · rename_i b t
    simp only [List.length_cons]
    split at h
    · split at h
      · split at h
        · simp at h
        · have := skipAfterWhole_length h
          omega
      · simp_all
    · split at h
      · have := skipAfterWhole_length h
        have := dropDigits_length t
        omega
      · simp at h

end CardDesk.Json
