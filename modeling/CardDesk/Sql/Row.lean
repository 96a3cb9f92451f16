import CardDesk.Sql.Statement

/-!
Cards read from rows. Columns are found by their names; a row that cannot be read is an error of the
database, and a row that can be read but holds an unknown category is a corrupt one.
-/

namespace CardDesk.Sql

structure CardRow where
  id : Int32
  name : String
  department : String
  code : String
  deriving DecidableEq, Repr

def cellNamed? (entries : List Entry) (name : String) : Option Entry :=
  entries.reverse.find? fun e => e.1.name = name

def readAs? (kind : ColumnKind) (e : Entry) : Option kind.Value :=
  match kind, e.1.type, e.2 with
  | .integer, .int4, .integer n => some (Int32.ofInt n)
  | .text, .text, .text s => some s
  | .text, .varchar, .text s => some s
  | .text, .bpchar, .text s => some s
  | _, _, _ => none

def readCell (kind : ColumnKind) (ref : ColumnRef) (e : Entry) : Except DatabaseError kind.Value :=
  if e.2 = .null then .error (.columnUnreadable ref .unexpectedNull)
  else
    match readAs? kind e with
    | some value => .ok value
    | none => .error (.columnUnreadable ref (.mismatchedType kind e.1.type))

def readNamed (kind : ColumnKind) (entries : List Entry) (name : String) :
    Except DatabaseError kind.Value :=
  match cellNamed? entries name with
  | none => .error (.columnNotFound name)
  | some e => readCell kind (.named name) e

def readRow (entries : List Entry) : Except DatabaseError CardRow := do
  let id ← readNamed .integer entries "card_id"
  let name ← readNamed .text entries "name"
  let department ← readNamed .text entries "department"
  let code ← readNamed .text entries "card_type"
  return ⟨id, name, department, code⟩

def CardRow.card (r : CardRow) : Except StoreError Card :=
  match Category.ofCode? r.code with
  | some category => .ok ⟨r.id, r.name, r.department, category⟩
  | none =>
    .error (.corrupt ("card " ++ toString r.id.toInt ++ " has unknown type code " ++
      Text.quoted r.code))

variable {columns : List Column}

/-- All rows of a reply; every row is read before any is understood. -/
def readCards (rows : List (Row columns)) : Except StoreError (List Card) :=
  match rows.mapM fun row => readRow row.entries with
  | .error e => .error (.database e)
  | .ok rows => rows.mapM CardRow.card

def readCard? : List (Row columns) → Except StoreError (Option Card)
  | [] => .ok none
  | row :: _ =>
    match readRow row.entries with
    | .error e => .error (.database e)
    | .ok r => r.card.map some

def readId : List (Row columns) → Except DatabaseError Int32
  | [] => .error .rowNotFound
  | row :: _ =>
    match row.entries with
    | [] => .error (.columnOutOfBounds 0 0)
    | e :: _ => readCell .integer (.numbered 0) e

end CardDesk.Sql
