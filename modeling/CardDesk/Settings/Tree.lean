import CardDesk.Document
import CardDesk.Text.Lowercase

namespace CardDesk.Settings

inductive Scalar where
  | null
  | boolean (b : Bool)
  | integer (n : Int)
  | number (x : Double)
  | text (s : String)
  deriving DecidableEq, Repr

abbrev Origin := Option String

inductive Tree where
  | scalar (origin : Origin) (value : Scalar)
  | list (origin : Origin) (items : List Tree)
  | table (origin : Origin) (members : List (String × Tree))
  deriving Repr

namespace Tree

def empty : Tree := scalar none .null

mutual

def ofDocument (origin : Origin) : Document → Tree
  | .null => scalar origin .null
  | .boolean b => scalar origin (.boolean b)
  | .integer n => scalar origin (.integer n)
  | .number x => scalar origin (.number x)
  | .text s => scalar origin (.text s)
  | .list items => list origin (ofItems origin items)
  | .table members => table origin (ofMembers origin members)

def ofItems (origin : Origin) : List Document → List Tree
  | [] => []
  | d :: rest => ofDocument origin d :: ofItems origin rest

def ofMembers (origin : Origin) : List (String × Document) → List (String × Tree)
  | [] => []
  | (k, d) :: rest => (k, ofDocument origin d) :: ofMembers origin rest

end

def get? (t : Tree) (key : String) : Option Tree :=
  match t with
  | table _ members => members.lookup key
  | _ => none

def put (t : Tree) (key : String) (value : Tree) : Tree :=
  match t with
  | table origin members => table origin (Keyed.put key value members)
  | _ => table none [(key, value)]

mutual

/-- Lays a value over an old one. A table is laid over member by member, with the names in lower
case; anything else takes the place of the old value. -/
def overlay : Tree → Option Tree → Tree
  | table _ members, old => overlayAll members (old.getD (table none []))
  | t, _ => t

def overlayAll : List (String × Tree) → Tree → Tree
  | [], t => t
  | (k, v) :: rest, t =>
    let name := Text.lower k
    overlayAll rest (t.put name (overlay v (t.get? name)))

end

def lay (key : String) (value t : Tree) : Tree :=
  let name := Text.lower key
  t.put name (overlay value (t.get? name))

def items : Tree → List Tree
  | list _ items => items
  | _ => []

def origin : Tree → Origin
  | scalar origin _ => origin
  | list origin _ => origin
  | table origin _ => origin

def changeItem (index : Int) (change : Tree → Tree) (t : Tree) : Tree :=
  let items := t.items
  let i := if 0 ≤ index then index.toNat else items.length - index.natAbs
  let items := items ++ List.replicate (i + 1 - items.length) empty
  let origin := match t with
    | list origin _ => origin
    | _ => none
  list origin (items.set i (change (items.getD i empty)))

def changeMember (key : String) (change : Tree → Tree) (t : Tree) : Tree :=
  t.put key (change ((t.get? key).getD empty))

end Tree

end CardDesk.Settings
