import CardDesk.Document.Scan
import CardDesk.Number.Literal
import CardDesk.Settings.Tree

namespace CardDesk.Settings

inductive KeyPath where
  | name (key : String)
  | member (parent : KeyPath) (key : String)
  | item (parent : KeyPath) (index : Int)
  deriving DecidableEq, Repr

namespace KeyPath

open Scan

def isNameChar (c : Char) : Bool :=
  c.isAlphanum || c = ' ' || c = '_' || c = '-'

def readName : Scan String := do
  return String.ofList (← some1 isNameChar)

def isSpace (c : Char) : Bool :=
  c = ' ' || c = '\t'

def readIndex : Scan Int := do
  char '['
  let _ ← span isSpace
  let minus ← taken ['-']
  let digits ← some1 Char.isDigit
  let _ ← span isSpace
  char ']'
  StateT.lift (Literal.int64? (if minus then '-' :: digits else digits))

def step (p : KeyPath) : Scan KeyPath :=
  (do
    char '.'
    return member p (← readName)) <|>
  (do return item p (← readIndex))

def read? (s : String) : Option KeyPath :=
  match readName s.toList with
  | none => none
  | some (key, rest) => fold step (name key) rest

def change : KeyPath → (Tree → Tree) → Tree → Tree
  | name key, f, t => t.changeMember key f
  | member parent key, f, t => change parent (Tree.changeMember key f) t
  | item parent index, f, t => change parent (Tree.changeItem index f) t

def put : KeyPath → Tree → Tree → Tree
  | name key, value, t => Tree.lay key value t
  | member parent key, value, t => change parent (Tree.lay key value) t
  | item parent index, value, t => change parent (Tree.changeItem index fun _ => value) t

end KeyPath

abbrev Layer := List (String × Tree)

def Layer.apply (layer : Layer) (t : Tree) : Tree :=
  layer.foldl (fun t (k, v) => ((KeyPath.read? k).getD (.name k)).put v t) t

end CardDesk.Settings
