import CardDesk.Store.Error

namespace CardDesk.Sql

/-- A migration with its script, in which one blank stands for any run of white space. -/
structure Migration where
  version : Int
  description : String
  script : String
  deriving DecidableEq, Repr

def createCard : Migration where
  version := 20240301000000
  description := "create card"
  script :=
    "CREATE TABLE IF NOT EXISTS card ( card_id SERIAL PRIMARY KEY, name VARCHAR(63) NOT NULL, " ++
      "department VARCHAR(63) NOT NULL, card_type CHAR(1) NOT NULL CHECK (card_type IN ('T', " ++
      "'S')), UNIQUE (name, department, card_type) );"

def migrations : List Migration := [createCard]

structure Applied where
  version : Int
  intact : Bool
  complete : Bool
  deriving DecidableEq, Repr

abbrev History := List Applied

inductive MigrationStatement where
  | currentDatabase
  | lock
  | createHistory
  | selectIncomplete
  | selectApplied
  | begin
  | script (m : Migration)
  | record (m : Migration)
  | commit
  | recordTime (m : Migration)
  | unlock
  deriving DecidableEq, Repr

/-- The text of a statement, its white space as in a script. -/
def MigrationStatement.sql : MigrationStatement → String
  | currentDatabase => "SELECT current_database()"
  | lock => "SELECT pg_advisory_lock($1)"
  | createHistory =>
    "CREATE TABLE IF NOT EXISTS _sqlx_migrations ( version BIGINT PRIMARY KEY, description TEXT " ++
      "NOT NULL, installed_on TIMESTAMPTZ NOT NULL DEFAULT now(), success BOOLEAN NOT NULL, " ++
      "checksum BYTEA NOT NULL, execution_time BIGINT NOT NULL );"
  | selectIncomplete =>
    "SELECT version FROM _sqlx_migrations WHERE success = false ORDER BY version LIMIT 1"
  | selectApplied => "SELECT version, checksum FROM _sqlx_migrations ORDER BY version"
  | begin => "BEGIN"
  | script m => m.script
  | record _ =>
    "INSERT INTO _sqlx_migrations ( version, description, success, checksum, execution_time ) " ++
      "VALUES ( $1, $2, TRUE, $3, -1 )"
  | commit => "COMMIT"
  | recordTime _ => "UPDATE _sqlx_migrations SET execution_time = $1 WHERE version = $2"
  | unlock => "SELECT pg_advisory_unlock($1)"

inductive MigrationEffect where
  | executed (m : Migration)
  | recorded (m : Migration)
  deriving DecidableEq, Repr

structure MigrationRun where
  result : Except MigrationError Unit
  effects : List MigrationEffect
  history : History

abbrev Refusing := MigrationStatement → Option ServerError

def firstRefused (refuses : Refusing) (statements : List MigrationStatement) :
    Option ServerError :=
  statements.findSome? refuses

def incomplete? (h : History) : Option Int :=
  ((h.filter fun a => !a.complete).map Applied.version).min?

def known (version : Int) : Bool :=
  migrations.any fun m => m.version = version

def unknown? (h : History) : Option Int :=
  (((h.map Applied.version).mergeSort (· ≤ ·)).filter fun v => !known v).head?

def applied? (h : History) (m : Migration) : Option Applied :=
  h.find? fun a => a.version = m.version

def apply (refuses : Refusing) (m : Migration) (h : History) : MigrationRun :=
  match firstRefused refuses [.begin, .script m] with
  | some e => ⟨.error (.refused e), [], h⟩
  | none =>
    match refuses (.record m) with
    | some e => ⟨.error (.refused e), [.executed m], h⟩
    | none =>
      let effects := [.executed m, .recorded m]
      match refuses .commit with
      | some e => ⟨.error (.refused e), effects, h⟩
      | none =>
        let h := h ++ [⟨m.version, true, true⟩]
        match refuses (.recordTime m) with
        | some e => ⟨.error (.refused e), effects, h⟩
        | none => ⟨.ok (), effects, h⟩

/-- Goes over the migrations in their order: those applied have to be unchanged, the others are
applied now. -/
def applyAll (refuses : Refusing) : List Migration → History → MigrationRun
  | [], h => ⟨.ok (), [], h⟩
  | m :: ms, h =>
    match applied? h m with
    | some a =>
      if a.intact then applyAll refuses ms h
      else ⟨.error (.versionModified m.version), [], h⟩
    | none =>
      let run := apply refuses m h
      match run.result with
      | .error e => ⟨.error e, run.effects, run.history⟩
      | .ok () =>
        let rest := applyAll refuses ms run.history
        { rest with effects := run.effects ++ rest.effects }

def checkHistory (h : History) : Except MigrationError Unit :=
  match incomplete? h with
  | some version => .error (.dirty version)
  | none =>
    match unknown? h with
    | some version => .error (.versionMissing version)
    | none => .ok ()

def migrate (refuses : Refusing) (h : History) : MigrationRun :=
  match firstRefused refuses [.currentDatabase, .lock, .createHistory, .selectIncomplete] with
  | some e => ⟨.error (.refused e), [], h⟩
  | none =>
    match incomplete? h with
    | some version => ⟨.error (.dirty version), [], h⟩
    | none =>
      match refuses .selectApplied with
      | some e => ⟨.error (.refused e), [], h⟩
      | none =>
        match checkHistory h with
        | .error e => ⟨.error e, [], h⟩
        | .ok () =>
          let run := applyAll refuses migrations h
          match run.result with
          | .error _ => run
          | .ok () =>
            match firstRefused refuses [.currentDatabase, .unlock] with
            | some e => { run with result := .error (.refused e) }
            | none => run

end CardDesk.Sql
