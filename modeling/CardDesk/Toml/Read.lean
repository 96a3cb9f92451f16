import CardDesk.Toml.Moment
import CardDesk.Toml.Number
import CardDesk.Toml.Table

namespace CardDesk.Toml

open Scan

def member (value : Scan Document) : Scan ((List String × String) × Document) := do
  let k ← key
  char '='
  spaces
  let v ← value
  spaces
  return (k, v)

def inlineTable (value : Scan Document) : Scan Document := do
  char '\x7b'
  let members ← separated (member value) (char ',')
  spaces
  char '\x7d'
  let table ← StateT.lift (members.foldlM (fun ms ((path, k), v) => Node.addValue path k v ms) [])
  return .table (Node.documents table)

def list (value : Scan Document) : Scan Document := do
  return .list (← bracketed gap '[' ']' value)

def scalar : Scan Document :=
  (do return .text (← text)) <|>
  (do return .text (← moment).write) <|>
  (do return .number (← writtenFloat)) <|>
  (do return .number (← namedFloat)) <|>
  (do return .integer (← integer)) <|>
  (literal ['t', 'r', 'u', 'e'] *> pure (.boolean true)) <|>
  (literal ['f', 'a', 'l', 's', 'e'] *> pure (.boolean false))

def value : Nat → Scan Document
  | 0 => scalar
  | depth + 1 => list (value depth) <|> inlineTable (value depth) <|> scalar

structure State where
  root : Node.Members
  place : List String

def ending : Scan Unit := do
  spaces
  comment <|> pure ()
  newline <|> atEnd

def header (s : State) : Scan State := do
  char '['
  if ← taken ['['] then
    let (path, k) ← key
    literal [']', ']']
    return ⟨← StateT.lift (Node.openElement path k s.root), path ++ [k]⟩
  else
    let (path, k) ← key
    char ']'
    return ⟨← StateT.lift (Node.openTable path k s.root), path ++ [k]⟩

def entry (s : State) : Scan State := do
  let ((path, k), v) ← member (value maxDepth)
  return { s with root := ← StateT.lift (Node.addValueAt s.place path k v s.root) }

def line (s : State) : Scan State := do
  spaces
  let s ← match ← peek with
    | some '[' => header s
    | some '#' => pure s
    | some '\n' => pure s
    | some '\r' => pure s
    | none => pure s
    | some _ => entry s
  ending
  return s

def read? (s : String) : Option Document.Members :=
  (fold line ⟨[], []⟩ (dropMark s.toList)).map fun s => Node.documents s.root

end CardDesk.Toml
