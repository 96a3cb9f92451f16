import CardDesk.Sql.Row

namespace CardDesk.Sql

structure Table where
  lastId : Int32 := 0
  rows : List CardRow := []
  deriving DecidableEq, Repr

namespace Table

def row (r : CardRow) : Row cardColumns where
  cells := [.integer r.id.toInt, .text r.name, .text r.department, .text r.code]
  length_eq := rfl
  admitted := by simp [cardColumns, Column.admits]

def idRow (id : Int32) : Row [⟨"card_id", .int4⟩] where
  cells := [.integer id.toInt]
  length_eq := rfl
  admitted := by simp [Column.admits]

def replyRows (rows : List CardRow) : Reply :=
  .completed cardColumns (rows.map row) rows.length

def sameIdentity (name department code : String) (r : CardRow) : Bool :=
  r.name = name && r.department = department && r.code = code

def select (t : Table) (p : CardRow → Bool) : Reply :=
  replyRows (t.rows.filter p)

def ordered (rows : List CardRow) : List CardRow :=
  rows.mergeSort fun a b => a.id ≤ b.id

def reply : Peer Table
  | .selectAll, t => (replyRows (ordered t.rows), t)
  | .selectByIdentity name department code, t => (t.select (sameIdentity name department code), t)
  | .insert name department code, t =>
    if t.rows.any (sameIdentity name department code) then
      (.refused ⟨uniqueViolation, "duplicate key value violates unique constraint"⟩, t)
    else
      let id := t.lastId + 1
      (.completed _ [idRow id] 1, ⟨id, t.rows ++ [⟨id, name, department, code⟩]⟩)
  | .selectById id, t => (t.select fun r => r.id = id, t)
  | .deleteById id, t =>
    (.affected (t.rows.filter fun r => r.id = id).length,
      { t with rows := t.rows.filter fun r => r.id ≠ id })
  | .selectOne, t => (.rows [⟨"?column?", .int4⟩] [[.integer 1]], t)

end Table

def Statement.ofSql? (sql : String) : List Parameter → Option Statement
  | [] =>
    if sql = "SELECT card_id, name, department, card_type FROM card ORDER BY card_id" then
      some .selectAll
    else if sql = "SELECT 1" then some .selectOne
    else none
  | [.integer id] =>
    if sql = "SELECT card_id, name, department, card_type FROM card WHERE card_id = $1" then
      some (.selectById id)
    else if sql = "DELETE FROM card WHERE card_id = $1" then some (.deleteById id)
    else none
  | [.text name, .text department, .text code] =>
    if sql = "SELECT card_id, name, department, card_type FROM card " ++
        "WHERE name = $1 AND department = $2 AND card_type = $3" then
      some (.selectByIdentity name department code)
    else if sql = "INSERT INTO card (name, department, card_type) VALUES ($1, $2, $3) " ++
        "RETURNING card_id" then
      some (.insert name department code)
    else none
  | _ => none

def Table.peer : Peer Table := fun s t =>
  match Statement.ofSql? s.sql s.parameters with
  | some s => Table.reply s t
  | none => (.refused ⟨"42601", "syntax error"⟩, t)

theorem Statement.ofSql?_sql (s : Statement) : ofSql? s.sql s.parameters = some s := by
  cases s <;> rfl

theorem Table.peer_eq (s : Statement) (t : Table) : peer s t = reply s t := by
  rw [peer, Statement.ofSql?_sql]

end CardDesk.Sql
