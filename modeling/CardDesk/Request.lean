import CardDesk.Json.Members
import CardDesk.Store.Error

namespace CardDesk

structure Request where
  id : Option Int32
  name : Option String
  department : Option String
  label : Option String
  op : String
  deriving DecidableEq, Repr

inductive Command where
  | register (a : Application)
  | remove (id : Int32)
  | unsupported (op : String)
  deriving DecidableEq, Repr

def Request.command (q : Request) : Except Refusal Command :=
  if q.op = "new" then
    let label := q.label.getD ""
    match Category.ofLabel? label with
    | none => .error (.unknownLabel label)
    | some category =>
      .ok (.register (.trimmed (q.name.getD "") (q.department.getD "") category))
  else if q.op = "remove" then
    match q.id with
    | none => .error .idRequired
    | some id => .ok (.remove id)
  else .ok (.unsupported q.op)

namespace Request

open Json

structure Fields where
  id : Option (Option Int32) := none
  name : Option (Option String) := none
  department : Option (Option String) := none
  label : Option (Option String) := none
  op : Option String := none
  deriving DecidableEq, Repr

def fieldNames : List String := ["id", "name", "department", "type", "op"]

def readOptionalString : Reader (Option String) :=
  readOptional (readString "a string")

def readMember (f : Fields) (key : String) : Reader Fields := fun s =>
  if key = "id" then
    readField key f.id (readOptional readInt32) (fun v => { f with id := some v }) s
  else if key = "name" then
    readField key f.name readOptionalString (fun v => { f with name := some v }) s
  else if key = "department" then
    readField key f.department readOptionalString (fun v => { f with department := some v }) s
  else if key = "type" then
    readField key f.label readOptionalString (fun v => { f with label := some v }) s
  else if key = "op" then
    readField key f.op (readString "a string") (fun v => { f with op := some v }) s
  else .error (objectFault (.unknownField key fieldNames) s)

theorem readMember_length {f v : Fields} {key : String} {s r : Bytes}
    (h : readMember f key s = .ok (v, r)) : r.length < s.length := by
  have hi : ∀ s v r, readOptional readInt32 s = .ok (v, r) → r.length < s.length :=
    fun _ _ _ h => readOptional_length (fun _ _ _ h => readInt32_length h) h
  have ht : ∀ s v r, readString "a string" s = .ok (v, r) → r.length < s.length :=
    fun _ _ _ h => readString_length h
  have ho : ∀ s v r, readOptionalString s = .ok (v, r) → r.length < s.length :=
    fun _ _ _ h => readOptional_length ht h
  unfold readMember at h
  split at h
  · exact readField_length hi h
  split at h
  · exact readField_length ho h
  split at h
  · exact readField_length ho h
  split at h
  · exact readField_length ho h
  split at h
  · exact readField_length ht h
  · simp at h

def ofFields (f : Fields) (s : Bytes) : Except Fault Request :=
  match f.op with
  | none => .error (objectFault (.missingField "op") s)
  | some op => .ok ⟨f.id.join, f.name.join, f.department.join, f.label.join, op⟩

def readObject : Reader Request := fun s => do
  let (f, s) ← readMembers readMember (fun _ _ _ _ _ h => readMember_length h) true {} s
  let q ← ofFields f s
  let s ← closeObject s
  return (q, s)

def expected : String := "struct CardRequest"

def readList : Reader Request := fun s => do
  let length := expected ++ " with 5 elements"
  let (id, s) ← readPlace 0 length (readOptional readInt32) s
  let (name, s) ← readPlace 1 length readOptionalString s
  let (department, s) ← readPlace 2 length readOptionalString s
  let (label, s) ← readPlace 3 length readOptionalString s
  let (op, s) ← readPlace 4 length (readString "a string") s
  let s ← closeList s
  return (⟨id, name, department, label, op⟩, s)

def read : Reader Request := fun s =>
  match skipSpace s with
  | [] => .error ⟨.eofInValue, []⟩
  | b :: r =>
    if b = 0x5B then readList r
    else if b = 0x7B then readObject r
    else .error (mistyped expected (b :: r))

def ofJson (input : Bytes) : Except Complaint Request :=
  readAll read input

end Request

end CardDesk
