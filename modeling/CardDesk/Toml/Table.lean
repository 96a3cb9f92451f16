import CardDesk.Document

/-!
Tables as they come to be in a TOML text. A table may be opened by its header once; one that has
only been passed through on the way to another can still be opened, and one that dotted keys have
made can be extended by dotted keys alone.
-/

namespace CardDesk.Toml

/-- How a table has come to be: by its header, on the way to another table, or by dotted keys. -/
inductive Form where
  | opened
  | passed
  | dotted
  deriving DecidableEq, Repr

inductive Node where
  | value (d : Document)
  | table (form : Form) (members : List (String × Node))
  | tables (elements : List (List (String × Node)))

namespace Node

abbrev Members := List (String × Node)

def descend (byDots : Bool) (change : Form → Members → Option Members) :
    List String → Form → Members → Option Members
  | [], form, members => change form members
  | k :: path, _, members =>
    match members.lookup k with
    | none =>
      let form : Form := if byDots then .dotted else .passed
      (descend byDots change path form []).map fun inner => Keyed.put k (.table form inner) members
    | some (.table form inner) =>
      if byDots && form == .opened then none
      else (descend byDots change path form inner).map fun inner =>
        Keyed.put k (.table form inner) members
    | some (.tables (last :: others)) =>
      (descend byDots change path .opened last).map fun last =>
        Keyed.put k (.tables (last :: others)) members
    | some _ => none

def addValue (path : List String) (key : String) (value : Document) : Members → Option Members :=
  descend true (fun form members =>
    if (form == .dotted) == path.isEmpty then none
    else if (members.lookup key).isSome then none
    else some (Keyed.put key (.value value) members)) path .opened

def openTable (path : List String) (key : String) : Members → Option Members :=
  descend false (fun _ members =>
    match members.lookup key with
    | none => some (Keyed.put key (.table .opened []) members)
    | some (.table .passed inner) => some (Keyed.put key (.table .opened inner) members)
    | some _ => none) path .opened

def openElement (path : List String) (key : String) : Members → Option Members :=
  descend false (fun _ members =>
    match members.lookup key with
    | none => some (Keyed.put key (.tables [[]]) members)
    | some (.tables elements) => some (Keyed.put key (.tables ([] :: elements)) members)
    | some _ => none) path .opened

def addValueAt (place path : List String) (key : String) (value : Document) :
    Members → Option Members :=
  descend false (fun _ => addValue path key value) place .opened

mutual

def document : Node → Document
  | value d => d
  | table _ members => .table (documents members)
  | tables elements => .list (elementDocuments elements).reverse

def documents : List (String × Node) → List (String × Document)
  | [] => []
  | (k, n) :: rest => (k, document n) :: documents rest

def elementDocuments : List (List (String × Node)) → List Document
  | [] => []
  | e :: rest => .table (documents e) :: elementDocuments rest

end

end Node

end CardDesk.Toml
