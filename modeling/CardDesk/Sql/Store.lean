import CardDesk.Sql.Row

namespace CardDesk.Sql

structure Connection (σ : Type) where
  database : σ
  closed : Bool := false

def statement? : Call → Option Statement
  | .findAll => some .selectAll
  | .findByIdentity name department category =>
    some (.selectByIdentity name department category.code)
  | .insert a => some (.insert a.name a.department a.category.code)
  | .findById id => some (.selectById id)
  | .deleteById id => some (.deleteById id)
  | .ping => some .selectOne
  | .release => none

def insertedId : Reply → Except StoreError Int32
  | .refused e =>
    if e.code = uniqueViolation then .error .duplicate else .error (.database (.server e))
  | .completed _ rows _ =>
    match readId rows with
    | .ok id => .ok id
    | .error e => .error (.database e)

def foundCards : Reply → Except StoreError (List Card)
  | .refused e => .error (.database (.server e))
  | .completed _ rows _ => readCards rows

def foundCard : Reply → Except StoreError (Option Card)
  | .refused e => .error (.database (.server e))
  | .completed _ rows _ => readCard? rows

def removedAny : Reply → Except StoreError Bool
  | .refused e => .error (.database (.server e))
  | .completed _ _ count => .ok (0 < count)

def acknowledged : Reply → Except StoreError Unit
  | .refused e => .error (.database (.server e))
  | .completed .. => .ok ()

def understand : (c : Call) → Reply → Except StoreError c.Answer
  | .findAll, reply => foundCards reply
  | .findByIdentity .., reply => foundCard reply
  | .insert _, reply => insertedId reply
  | .findById _, reply => foundCard reply
  | .deleteById _, reply => removedAny reply
  | .ping, reply => acknowledged reply
  | .release, _ => .ok ()

def answer (peer : Peer σ) : Store (Connection σ) := fun c s =>
  match statement? c with
  | none => (understand c (.affected 0), { s with closed := true })
  | some statement =>
    if s.closed then (.error (.database .poolClosed), s)
    else
      let (reply, database) := peer statement s.database
      (understand c reply, { s with database := database })

end CardDesk.Sql
