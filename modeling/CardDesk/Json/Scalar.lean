import CardDesk.Json.Number
import CardDesk.Json.Text

namespace CardDesk.Json

abbrev Reader (α : Type) := Bytes → Except Fault (α × Bytes)

def isSpace (b : UInt8) : Bool :=
  b == 0x20 || b == 0x0A || b == 0x09 || b == 0x0D

def skipSpace (s : Bytes) : Bytes :=
  s.dropWhile isSpace

def Fault.atNext (cause : Cause) (s : Bytes) : Fault :=
  ⟨cause, s.tail⟩

def readWord : Bytes → Bytes → Except Fault Bytes
  | [], s => .ok s
  | _ :: _, [] => .error ⟨.eofInValue, []⟩
  | c :: word, b :: r => if b = c then readWord word r else .error ⟨.expectedIdent, r⟩

def tailOfNull : Bytes := [0x75, 0x6C, 0x6C]

def tailOfTrue : Bytes := [0x72, 0x75, 0x65]

def tailOfFalse : Bytes := [0x61, 0x6C, 0x73, 0x65]

def wrongType (found : Found) (expected : String) (rest : Bytes) : Fault :=
  ⟨.mismatch (.wrongType found expected), rest⟩

def wordFault (found : Found) (expected : String) : Except Fault Bytes → Fault
  | .error f => f
  | .ok r => wrongType found expected r

def valueFault (found : α → Found) (expected : String) : Except Fault (α × Bytes) → Fault
  | .error f => f
  | .ok (v, r) => wrongType (found v) expected r

/-- The fault of a value that is not of the expected type. A scalar is read to its end first, and
its own faults come before. -/
def mistyped (expected : String) : Bytes → Fault
  | [] => ⟨.expectedValue, []⟩
  | b :: r =>
    if b = 0x6E then wordFault .null expected (readWord tailOfNull r)
    else if b = 0x74 then wordFault (.bool true) expected (readWord tailOfTrue r)
    else if b = 0x66 then wordFault (.bool false) expected (readWord tailOfFalse r)
    else if b = 0x2D then valueFault Number.found expected (readNumber false r)
    else if isDigit b then valueFault Number.found expected (readNumber true (b :: r))
    else if b = quoteMark then valueFault .text expected (readText r)
    else if b = 0x5B then wrongType .list expected (b :: r)
    else if b = 0x7B then wrongType .object expected (b :: r)
    else ⟨.expectedValue, r⟩

def Number.toInt32? : Number → Option Int32
  | natural n => if n ≤ 2147483647 then some (Int32.ofNat n) else none
  | negative n => if n ≤ 2147483648 then some (Int32.ofInt (-n)) else none
  | float _ => none

def Number.int32 (n : Number) (rest : Bytes) : Except Fault (Int32 × Bytes) :=
  match n.toInt32? with
  | some i => .ok (i, rest)
  | none =>
    match n with
    | float x => .error (wrongType (.float x) "i32" rest)
    | n => .error ⟨.mismatch (.wrongValue n.found "i32"), rest⟩

def int32OfNumber : Except Fault (Number × Bytes) → Except Fault (Int32 × Bytes)
  | .error f => .error f
  | .ok (n, r) => n.int32 r

def readInt32 : Reader Int32 := fun s =>
  match skipSpace s with
  | [] => .error ⟨.eofInValue, []⟩
  | b :: r =>
    if b = 0x2D then int32OfNumber (readNumber false r)
    else if isDigit b then int32OfNumber (readNumber true (b :: r))
    else .error (mistyped "i32" (b :: r))

def readString (expected : String) : Reader String := fun s =>
  match skipSpace s with
  | [] => .error ⟨.eofInValue, []⟩
  | b :: r => if b = quoteMark then readText r else .error (mistyped expected (b :: r))

def readNull : Reader Unit := fun s =>
  match skipSpace s with
  | [] => .error ⟨.eofInValue, []⟩
  | b :: r =>
    if b = 0x6E then (readWord tailOfNull r).map ((), ·) else .error (mistyped "unit" (b :: r))

def readOptional (read : Reader α) : Reader (Option α) := fun s =>
  match skipSpace s with
  | 0x6E :: r => (readWord tailOfNull r).map (none, ·)
  | s => (read s).map fun (v, r) => (some v, r)

theorem skipSpace_length (s : Bytes) : (skipSpace s).length ≤ s.length := by
  induction s with
  | nil => simp [skipSpace]
  | cons b r ih =>
    simp only [skipSpace, List.dropWhile_cons] at ih ⊢
    split
    · simp only [List.length_cons]
      omega
    · simp

theorem readWord_length {word s r : Bytes} (h : readWord word s = .ok r) :
    r.length ≤ s.length := by
  induction word generalizing s with
  | nil => simp_all [readWord]
  | cons c word ih =>
    cases s with
    | nil => simp [readWord] at h
    | cons b t =>
      rw [readWord] at h
      split at h
      · have := ih h
        simp only [List.length_cons]
        omega
      · simp at h

theorem int32OfNumber_length {x : Except Fault (Number × Bytes)} {v : Int32} {r : Bytes} {k : Nat}
    (hx : ∀ n t, x = .ok (n, t) → t.length < k) (h : int32OfNumber x = .ok (v, r)) :
    r.length < k := by
  unfold int32OfNumber at h
  split at h
  · simp at h
  · rename_i n t
    have := hx n t rfl
    unfold Number.int32 at h
    split at h
    · simp only [Except.ok.injEq, Prod.mk.injEq] at h
      simpa [← h.2] using this
    · split at h <;> simp at h

theorem readInt32_length {s r : Bytes} {v : Int32} (h : readInt32 s = .ok (v, r)) :
    r.length < s.length := by
  unfold readInt32 at h
  have hs := skipSpace_length s
  split at h
  · simp at h
  · rename_i b t hb
    simp only [hb, List.length_cons] at hs
    split at h
    · have := int32OfNumber_length (k := t.length) (fun n t h => readNumber_length h) h
      omega
    · split at h
      · have := int32OfNumber_length (k := (b :: t).length) (fun n t h => readNumber_length h) h
        simp only [List.length_cons] at this
        omega
      · simp at h

theorem readString_length {expected : String} {s r : Bytes} {v : String}
    (h : readString expected s = .ok (v, r)) : r.length < s.length := by
  unfold readString at h
  have hs := skipSpace_length s
  split at h
  · simp at h
  · rename_i b t hb
    simp only [hb, List.length_cons] at hs
    split at h
    · have := readText_length h
      omega
    · simp at h

theorem readOptional_length {read : Reader α}
    (hr : ∀ s v r, read s = .ok (v, r) → r.length < s.length) {s r : Bytes} {v : Option α}
    (h : readOptional read s = .ok (v, r)) : r.length < s.length := by
  unfold readOptional at h
  have hs := skipSpace_length s
  split at h
  · rename_i t hb
    simp only [hb, List.length_cons] at hs
    cases hw : readWord tailOfNull t with
    | error f => simp [hw, Except.map] at h
    | ok u =>
      simp only [hw, Except.map, Except.ok.injEq, Prod.mk.injEq] at h
      have := readWord_length hw
      rw [← h.2]
      omega
  · cases hw : read (skipSpace s) with
    | error f => simp [hw, Except.map] at h
    | ok u =>
      simp only [hw, Except.map, Except.ok.injEq, Prod.mk.injEq] at h
      have := hr _ _ _ hw
      rw [← h.2]
      omega

end CardDesk.Json
