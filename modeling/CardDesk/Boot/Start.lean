import CardDesk.Boot.Address
import CardDesk.Boot.Dotenv
import CardDesk.Boot.LogFilter
import CardDesk.Json.Text
import CardDesk.Moment
import CardDesk.Settings.Load
import CardDesk.Sql.Open

namespace CardDesk.Boot

open Settings (Environment Folder)

inductive BindError where
  | inUse
  | notAvailable
  | denied
  deriving DecidableEq, Repr

def BindError.message : BindError → String
  | inUse => "Address already in use (os error 98)"
  | notAvailable => "Cannot assign requested address (os error 99)"
  | denied => "Permission denied (os error 13)"

inductive Failure where
  | settings (e : Settings.Error)
  | store (e : StoreError)
  | host
  | bind (a : SocketAddress) (e : BindError)
  deriving DecidableEq, Repr

namespace Failure

def summary : Failure → String
  | settings _ => "Failed to load configuration"
  | store _ => "Failed to open card store"
  | host => "Invalid host address"
  | bind a _ => "Failed to bind " ++ a.write

def causes : Failure → List String
  | settings e => [e.message]
  | store e => e.chain
  | host => ["invalid IP address syntax"]
  | bind _ e => [e.message]

def causeLines : List String → List String
  | [cause] => ["    " ++ cause]
  | causes => causes.zipIdx.map fun (cause, i) => "    " ++ toString i ++ ": " ++ cause

def report (f : Failure) : String :=
  "Error: " ++ f.summary ++ "\n\nCaused by:\n" ++
    String.join ((causeLines f.causes).map fun l => l ++ "\n")

end Failure

structure Logging where
  json : Bool
  filter : LogFilter
  warnings : List String
  deriving DecidableEq, Repr

def Logging.of (env : Environment) (s : LoggingSettings) : Logging :=
  let json := s.format = "json"
  match (env.lookup "RUST_LOG").bind LogFilter.read? with
  | some filter => ⟨json, filter, []⟩
  | none =>
    let (filter, warnings) :=
      LogFilter.readLoosely ("library_card_server=" ++ s.level ++ ",tower_http=debug")
    ⟨json, filter, warnings⟩

def Logging.pass (l : Logging) (rs : List Record) : List Record :=
  rs.filter fun r => l.filter.allows r.target r.level

def paddedLevel (l : Level) : String :=
  String.ofList (List.replicate (5 - l.name.length) ' ') ++ l.name

def plainLine (now : Moment) (r : Record) : String :=
  now.write ++ " " ++ paddedLevel r.level ++ " " ++ r.target ++ ": " ++ r.line

def jsonLine (now : Moment) (r : Record) : String :=
  let fields := ("message", Json.quote r.message) :: r.fields.map fun (k, v) => (k, Json.quote v)
  Json.object [("timestamp", Json.quote now.write), ("level", Json.quote r.level.name),
    ("fields", Json.object fields), ("target", Json.quote r.target)]

def Logging.line (l : Logging) (now : Moment) (r : Record) : String :=
  if l.json then jsonLine now r else plainLine now r

structure Running where
  address : SocketAddress
  settings : Settings
  opened : Sql.Opened

structure Start where
  logging : Option Logging
  records : List Record
  result : Except Failure Running

structure Surroundings where
  environment : Environment
  folder : Folder
  network : Sql.Network
  bind : SocketAddress → Except BindError Unit

def dotenvPath : String := ".env"

def Surroundings.variables (w : Surroundings) : Environment :=
  match w.folder.text? (Folder.parts dotenvPath) with
  | none => w.environment
  | some text => Dotenv.extend w.environment text

def listen (w : Surroundings) (s : Settings) (opened : Sql.Opened) :
    Except Failure Running :=
  match IpAddress.read? s.server.host with
  | none => .error .host
  | some ip =>
    let address : SocketAddress := ⟨ip, s.server.port⟩
    match w.bind address with
    | .error e => .error (.bind address e)
    | .ok () => .ok ⟨address, s, opened⟩

def openAndListen (w : Surroundings) (s : Settings) : List Record × Except Failure Running :=
  let opening := Sql.openStore w.network s.database
  let records := .starting :: opening.records
  match opening.result with
  | .error e => (records, .error (.store e))
  | .ok opened =>
    match listen w s opened with
    | .error f => (records, .error f)
    | .ok running => (records ++ [.listening running.address.write], .ok running)

def start (w : Surroundings) : Start :=
  let env := w.variables
  match Settings.load env w.folder with
  | .error e => ⟨none, [], .error (.settings e)⟩
  | .ok s =>
    let logging := Logging.of env s.logging
    let (records, result) := openAndListen w s
    ⟨some logging, logging.pass records, result⟩

def Start.report (s : Start) : String :=
  String.join ((s.logging.map Logging.warnings).getD []) ++
    match s.result with
    | .error f => f.report
    | .ok _ => ""

end CardDesk.Boot
