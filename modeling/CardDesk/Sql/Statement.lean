import CardDesk.Store.Call

namespace CardDesk.Sql

inductive Statement where
  | selectAll
  | selectByIdentity (name department code : String)
  | insert (name department code : String)
  | selectById (id : Int32)
  | deleteById (id : Int32)
  | selectOne
  deriving DecidableEq, Repr

inductive Parameter where
  | integer (n : Int32)
  | text (s : String)
  deriving DecidableEq, Repr

namespace Statement

/-- The text of a statement, in which one blank stands for any run of white space. -/
def sql : Statement → String
  | selectAll => "SELECT card_id, name, department, card_type FROM card ORDER BY card_id"
  | selectByIdentity .. =>
    "SELECT card_id, name, department, card_type FROM card " ++
      "WHERE name = $1 AND department = $2 AND card_type = $3"
  | insert .. =>
    "INSERT INTO card (name, department, card_type) VALUES ($1, $2, $3) RETURNING card_id"
  | selectById _ => "SELECT card_id, name, department, card_type FROM card WHERE card_id = $1"
  | deleteById _ => "DELETE FROM card WHERE card_id = $1"
  | selectOne => "SELECT 1"

def parameters : Statement → List Parameter
  | selectAll => []
  | selectByIdentity name department code => [.text name, .text department, .text code]
  | insert name department code => [.text name, .text department, .text code]
  | selectById id => [.integer id]
  | deleteById id => [.integer id]
  | selectOne => []

end Statement

inductive Cell where
  | null
  | integer (n : Int)
  | text (s : String)
  deriving DecidableEq, Repr

structure Column where
  name : String
  type : SqlType
  deriving DecidableEq, Repr

/-- Whether a cell can stand under a column. Truth values are the integers 0 and 1. -/
def Column.admits (c : Column) (cell : Cell) : Bool :=
  match c.type, cell with
  | _, .null => true
  | .int2, .integer n => (Int16.ofInt n).toInt == n
  | .int4, .integer n => (Int32.ofInt n).toInt == n
  | .int8, .integer n => (Int64.ofInt n).toInt == n
  | .bool, .integer n => n == 0 || n == 1
  | .bytea, .text _ => true
  | .text, .text _ => true
  | .varchar, .text _ => true
  | .bpchar, .text _ => true
  | _, _ => false

abbrev Entry := Column × Cell

structure Row (columns : List Column) where
  cells : List Cell
  length_eq : cells.length = columns.length
  admitted : ∀ e ∈ columns.zip cells, e.1.admits e.2 = true
  deriving DecidableEq, Repr

namespace Row

def entries {columns : List Column} (row : Row columns) : List Entry :=
  columns.zip row.cells

theorem admits_of_mem {columns : List Column} {row : Row columns} {e : Entry}
    (h : e ∈ row.entries) : e.1.admits e.2 = true :=
  row.admitted e h

def of? (columns : List Column) (cells : List Cell) : Option (Row columns) :=
  if h : cells.length = columns.length ∧ ∀ e ∈ columns.zip cells, e.1.admits e.2 = true then
    some ⟨cells, h.1, h.2⟩
  else none

end Row

inductive Reply where
  | completed (columns : List Column) (rows : List (Row columns)) (count : Nat)
  | refused (e : ServerError)
  deriving DecidableEq, Repr

namespace Reply

def affected (count : Nat) : Reply :=
  completed [] [] count

/-- The reply with the given cells. A database does not send what its columns do not admit. -/
def rows (columns : List Column) (cells : List (List Cell)) : Reply :=
  match cells.mapM (Row.of? columns) with
  | some rows => completed columns rows rows.length
  | none => refused ⟨"42804", "datatype mismatch"⟩

end Reply

abbrev Peer (σ : Type) := Statement → σ → Reply × σ

def cardColumns : List Column :=
  [⟨"card_id", .int4⟩, ⟨"name", .varchar⟩, ⟨"department", .varchar⟩, ⟨"card_type", .bpchar⟩]

def uniqueViolation : String := "23505"

end CardDesk.Sql
