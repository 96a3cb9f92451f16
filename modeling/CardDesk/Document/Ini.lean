import CardDesk.Document
import CardDesk.Document.Scan
import CardDesk.Text.Blank

namespace CardDesk.Ini

open Scan

def isBlankChar (c : Char) : Bool :=
  Text.isBlank c

def textUntil (stop : Char → Bool) : Scan (List Char) := do
  let escape : Scan Char := do
    char '\\'
    match ← one fun _ => true with
    | '0' => return '\x00'
    | 'a' => return '\x07'
    | 'b' => return '\x08'
    | 't' => return '\t'
    | 'r' => return '\r'
    | 'n' => return '\n'
    | 'x' => coded 4
    | c => return c
  many (escape <|> one fun c => !stop c && c != '\\')

def trimmed (cs : List Char) : String :=
  Text.trim (String.ofList cs)

def isLineEnd (c : Char) : Bool :=
  c = '\n' || c = '\r'

def quotedValue (quote : Char) : Scan (List Char) := do
  char quote
  let cs ← textUntil (· == quote)
  char quote
  return cs

def lineValue : Scan (List Char) := do
  let _ ← span fun c => c = ' ' || c = '\t'
  quotedValue '"' <|> quotedValue '\'' <|> textUntil isLineEnd

structure State where
  members : Document.Members
  place : Option String

def sectionMembers (s : State) (name : String) : Document.Members :=
  match s.members.lookup name with
  | some (.table members) => members
  | _ => []

def State.add (s : State) (key value : String) : State :=
  match s.place with
  | none => { s with members := Keyed.put key (.text value) s.members }
  | some name =>
    let inner := Keyed.put key (.text value) (sectionMembers s name)
    { s with members := Keyed.put name (.table inner) s.members }

def State.enter (s : State) (name : String) : State :=
  ⟨Keyed.put name (.table (sectionMembers s name)) s.members, some name⟩

def header (s : State) : Scan State := do
  char '['
  let name ← textUntil fun c => c = ']' || isLineEnd c
  char ']'
  return s.enter (trimmed name)

def entry (s : State) : Scan State := do
  let key ← textUntil fun c => c = '=' || c = ':' || isLineEnd c
  let _ ← one fun c => c = '=' || c = ':'
  return s.add (trimmed key) (trimmed (← lineValue))

def comment : Scan Unit := do
  let _ ← one fun c => c = '#' || c = ';'
  let _ ← span fun c => !isLineEnd c

def step (s : State) : Scan State :=
  (one isBlankChar *> pure s) <|> (comment *> pure s) <|> header s <|> entry s

def members? (s : String) : Option Document.Members :=
  (fold step ⟨[], none⟩ s.toList).map State.members

end CardDesk.Ini
