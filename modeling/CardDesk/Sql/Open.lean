import CardDesk.Record
import CardDesk.Settings
import CardDesk.Sql.Parameters
import CardDesk.Sql.Migration

namespace CardDesk.Sql

inductive Network where
  | down (e : NetworkError)
  | up (history : History) (refuses : Refusing)

inductive Opened where
  | memory
  | database (history : History)
  deriving DecidableEq, Repr

structure Opening where
  result : Except StoreError Opened
  records : List Record
  effects : List MigrationEffect

def openDatabase (runMigrations : Bool) (h : History) (refuses : Refusing) : Opening :=
  if runMigrations then
    let run := migrate refuses h
    match run.result with
    | .error e => ⟨.error (.database (.migration e)), [.connected], run.effects⟩
    | .ok () => ⟨.ok (.database run.history), [.connected, .migrated], run.effects⟩
  else ⟨.ok (.database h), [.connected], []⟩

def openStore (network : Network) (s : DatabaseSettings) : Opening :=
  match s.backend with
  | .memory => ⟨.ok .memory, [.inMemory], []⟩
  | .postgres =>
    match Address.read s.url with
    | .error e => ⟨.error (.database (.address e)), [], []⟩
    | .ok _ =>
      match network with
      | .down e => ⟨.error (.database (.network e)), [], []⟩
      | .up h refuses => openDatabase s.runMigrations h refuses

end CardDesk.Sql
