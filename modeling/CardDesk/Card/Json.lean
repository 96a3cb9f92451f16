import CardDesk.Card
import CardDesk.Json.Members

namespace CardDesk

open Json

namespace Category

def ofName? : String → Option Category
  | "T" => some teacher
  | "S" => some student
  | _ => none

def json (c : Category) : String :=
  quote c.code

def named (expected : String) : Reader Category := fun s =>
  match readString expected s with
  | .error f => .error f
  | .ok (name, r) =>
    match ofName? name with
    | some c => .ok (c, r)
    | none => .error ⟨.mismatch (.unknownVariant name ["T", "S"]), r⟩

def read : Reader Category := fun s =>
  match skipSpace s with
  | [] => .error ⟨.eofInValue, []⟩
  | b :: r =>
    if b = quoteMark then named "variant identifier" (b :: r)
    else if b = 0x7B then
      match named "variant identifier" r with
      | .error f => .error f
      | .ok (c, r) =>
        match readColon r with
        | .error f => .error f
        | .ok r =>
          match readNull r with
          | .error f => .error f
          | .ok ((), r) =>
            match skipSpace r with
            | [] => .error ⟨.eofInObject, []⟩
            | d :: t => if d = 0x7D then .ok (c, t) else .error ⟨.expectedValue, d :: t⟩
    else .error ⟨.expectedValue, r⟩

def ofJson (input : Bytes) : Except Complaint Category :=
  readAll read input

theorem named_length {expected : String} {s r : Bytes} {v : Category}
    (h : named expected s = .ok (v, r)) : r.length < s.length := by
  unfold named at h
  split at h
  · simp at h
  · rename_i ht
    split at h
    · simp only [Except.ok.injEq, Prod.mk.injEq] at h
      have := readString_length ht
      simpa [← h.2] using this
    · simp at h

theorem readNull_length {s r : Bytes} {v : Unit} (h : readNull s = .ok (v, r)) :
    r.length < s.length := by
  unfold readNull at h
  have hs := skipSpace_length s
  split at h
  · simp at h
  · rename_i b t hb
    simp only [hb, List.length_cons] at hs
    split at h
    · cases hw : readWord tailOfNull t with
      | error f => simp [hw, Except.map] at h
      | ok u =>
        simp only [hw, Except.map, Except.ok.injEq, Prod.mk.injEq] at h
        have := readWord_length hw
        rw [← h.2]
        omega
    · simp at h

theorem read_length {s r : Bytes} {v : Category} (h : read s = .ok (v, r)) :
    r.length < s.length := by
  unfold read at h
  have hs := skipSpace_length s
  split at h
  · simp at h
  · rename_i b t hb
    simp only [hb, List.length_cons] at hs
    split at h
    · have := named_length h
      simp only [List.length_cons] at this
      omega
    split at h
    · split at h
      · simp at h
      rename_i hn
      have := named_length hn
      split at h
      · simp at h
      rename_i hc
      have := readColon_length hc
      split at h
      · simp at h
      rename_i u hu
      have := readNull_length hu
      have hs' := skipSpace_length u
      split at h
      · simp at h
      · rename_i d w hd
        simp only [hd, List.length_cons] at hs'
        split at h
        · simp only [Except.ok.injEq, Prod.mk.injEq] at h
          rw [← h.2]
          omega
        · simp at h
    · simp at h

end Category

namespace Card

def json (c : Card) : String :=
  object [("id", toString c.id.toInt), ("name", quote c.name), ("department", quote c.department),
    ("type", c.category.json)]

structure Fields where
  id : Option Int32 := none
  name : Option String := none
  department : Option String := none
  category : Option Category := none
  deriving DecidableEq, Repr

def readMember (f : Fields) (key : String) : Reader Fields := fun s =>
  if key = "id" then readField key f.id readInt32 (fun v => { f with id := some v }) s
  else if key = "name" then
    readField key f.name (readString "a string") (fun v => { f with name := some v }) s
  else if key = "department" then
    readField key f.department (readString "a string") (fun v => { f with department := some v }) s
  else if key = "type" then
    readField key f.category Category.read (fun v => { f with category := some v }) s
  else (skipMember s).map fun r => (f, r)

theorem readMember_length {f v : Fields} {key : String} {s r : Bytes}
    (h : readMember f key s = .ok (v, r)) : r.length < s.length := by
  unfold readMember at h
  split at h
  · exact readField_length (fun _ _ _ h => readInt32_length h) h
  split at h
  · exact readField_length (fun _ _ _ h => readString_length h) h
  split at h
  · exact readField_length (fun _ _ _ h => readString_length h) h
  split at h
  · exact readField_length (fun _ _ _ h => Category.read_length h) h
  · cases hs : skipMember s with
    | error e => simp [hs, Except.map] at h
    | ok t =>
      simp only [hs, Except.map, Except.ok.injEq, Prod.mk.injEq] at h
      have := skipMember_length hs
      simpa [← h.2] using this

def ofFields (f : Fields) (s : Bytes) : Except Fault Card :=
  match f.id, f.name, f.department, f.category with
  | some id, some name, some department, some category => .ok ⟨id, name, department, category⟩
  | none, _, _, _ => .error (objectFault (.missingField "id") s)
  | _, none, _, _ => .error (objectFault (.missingField "name") s)
  | _, _, none, _ => .error (objectFault (.missingField "department") s)
  | _, _, _, none => .error (objectFault (.missingField "type") s)

def readObject : Reader Card := fun s => do
  let (f, s) ← readMembers readMember (fun _ _ _ _ _ h => readMember_length h) true {} s
  let c ← ofFields f s
  let s ← closeObject s
  return (c, s)

def expected : String := "struct Card"

def readList : Reader Card := fun s => do
  let length := expected ++ " with 4 elements"
  let (id, s) ← readPlace 0 length readInt32 s
  let (name, s) ← readPlace 1 length (readString "a string") s
  let (department, s) ← readPlace 2 length (readString "a string") s
  let (category, s) ← readPlace 3 length Category.read s
  let s ← closeList s
  return (⟨id, name, department, category⟩, s)

def read : Reader Card := fun s =>
  match skipSpace s with
  | [] => .error ⟨.eofInValue, []⟩
  | b :: r =>
    if b = 0x5B then readList r
    else if b = 0x7B then readObject r
    else .error (mistyped expected (b :: r))

def ofJson (input : Bytes) : Except Complaint Card :=
  readAll read input

end Card

end CardDesk
