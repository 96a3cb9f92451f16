import CardDesk.Number.Literal
import CardDesk.Settings
import CardDesk.Settings.Error

namespace CardDesk.Settings

abbrev Result := Except Error

def maxUnsigned : Nat := 18446744073709551615

def nearestUnsigned : Double → Nat
  | .nan => 0
  | .infinite negative => if negative then 0 else maxUnsigned
  | .finite negative m q => if negative then 0 else min (Double.roundHalfAway m q) maxUnsigned

def isYes (s : String) : Bool :=
  ["true", "on", "yes"].contains (Text.lower s)

def isNo (s : String) : Bool :=
  ["false", "off", "no"].contains (Text.lower s)

def unsignedOfText? (s : String) : Option Nat :=
  if isYes s then some 1
  else if isNo s then some 0
  else Literal.uint64? s.toList

def unsigned (key : String) : Tree → Result Nat
  | .scalar origin value =>
    match value with
    | .null => .error (.wrongType key origin .nothing "an integer")
    | .boolean b => .ok b.toNat
    | .integer n =>
      if 0 ≤ n then .ok n.toNat
      else .error (.wrongType key origin (.integer n) "an unsigned 64 bit or less integer")
    | .number x => .ok (nearestUnsigned x)
    | .text s =>
      match unsignedOfText? s with
      | some n => .ok n
      | none => .error (.wrongType key origin (.text s) "an integer")
  | .list origin _ => .error (.wrongType key origin .list "an integer")
  | .table origin _ => .error (.wrongType key origin .table "an integer")

def bounded (bits : Nat) (key : String) (t : Tree) : Result Nat := do
  let n ← unsigned key t
  if n < Nat.pow 2 bits then return n
  else .error (.wrongType key none (.natural n)
    ("an unsigned " ++ toString bits ++ " bit integer"))

def uint16 (key : String) (t : Tree) : Result UInt16 :=
  (bounded 16 key t).map UInt16.ofNat

def uint32 (key : String) (t : Tree) : Result UInt32 :=
  (bounded 32 key t).map UInt32.ofNat

def uint64 (key : String) (t : Tree) : Result UInt64 :=
  (unsigned key t).map UInt64.ofNat

def isNonzero (x : Double) : Bool :=
  !x.isZero

def boolOfText? (s : String) : Option Bool :=
  if isYes s || Text.lower s = "1" then some true
  else if isNo s || Text.lower s = "0" then some false
  else none

def boolean (key : String) : Tree → Result Bool
  | .scalar origin value =>
    match value with
    | .null => .error (.wrongType key origin .nothing "a boolean")
    | .boolean b => .ok b
    | .integer n => .ok (n != 0)
    | .number x => .ok (isNonzero x)
    | .text s =>
      match boolOfText? s with
      | some b => .ok b
      | none => .error (.wrongType key origin (.text (Text.lower s)) "a boolean")
  | .list origin _ => .error (.wrongType key origin .list "a boolean")
  | .table origin _ => .error (.wrongType key origin .table "a boolean")

def numberText (x : Double) : String :=
  x.write ⟨none, false⟩

def text (key : String) : Tree → Result String
  | .scalar origin value =>
    match value with
    | .null => .error (.wrongType key origin .nothing "a string")
    | .boolean b => .ok (if b then "true" else "false")
    | .integer n => .ok (toString n)
    | .number x => .ok (numberText x)
    | .text s => .ok s
  | .list origin _ => .error (.wrongType key origin .list "a string")
  | .table origin _ => .error (.wrongType key origin .table "a string")

def backendNamed (name : String) : Result Backend :=
  if Text.lower name = "postgres" then .ok .postgres
  else if Text.lower name = "memory" then .ok .memory
  else .error (.unknownBackend name)

def backend : Tree → Result Backend
  | .scalar _ (.text s) => backendNamed s
  | .table _ [(name, _)] => backendNamed name
  | _ => .error .malformedBackend

inductive Section where
  | named (name : SectionName) (members : List (String × Tree))
  | listed (name : SectionName) (items : List Tree)

def sectionOf (name : SectionName) (t : Tree) : Result Section :=
  match t.get? name.key with
  | none => .ok (.named name [])
  | some (.table _ members) => .ok (.named name members)
  | some (.list _ items) => .ok (.listed name items)
  | some (.scalar _ value) => .error (.noSection name value)

namespace Section

def value? (s : Section) (key : String) (place : Nat) : Option (String × Tree) :=
  match s with
  | named name members => (members.lookup key).map (name.key ++ "." ++ key, ·)
  | listed name items => items[place]?.map (name.key ++ "[" ++ toString place ++ "]", ·)

def read (s : Section) (key : String) (place : Nat) (take : String → Tree → Result α)
    (default : α) : Result α :=
  match s.value? key place with
  | none => .ok default
  | some (path, t) => take path t

end Section

def readServer (t : Tree) : Result ServerSettings := do
  let s ← sectionOf .server t
  let defaults : ServerSettings := {}
  let host ← s.read "host" 0 text defaults.host
  let port ← s.read "port" 1 uint16 defaults.port
  let requestTimeoutSecs ← s.read "request_timeout_secs" 2 uint64 defaults.requestTimeoutSecs
  return { host, port, requestTimeoutSecs }

def readDatabase (t : Tree) : Result DatabaseSettings := do
  let s ← sectionOf .database t
  let defaults : DatabaseSettings := {}
  let backend ← s.read "backend" 0 (fun _ => backend) defaults.backend
  let url ← s.read "url" 1 text defaults.url
  let maxConnections ← s.read "max_connections" 2 uint32 defaults.maxConnections
  let minConnections ← s.read "min_connections" 3 uint32 defaults.minConnections
  let runMigrations ← s.read "run_migrations" 4 boolean defaults.runMigrations
  return { backend, url, maxConnections, minConnections, runMigrations }

def readLogging (t : Tree) : Result LoggingSettings := do
  let s ← sectionOf .logging t
  let defaults : LoggingSettings := {}
  let level ← s.read "level" 0 text defaults.level
  let format ← s.read "format" 1 text defaults.format
  return { level, format }

def read (t : Tree) : Result Settings := do
  let server ← readServer t
  let database ← readDatabase t
  let logging ← readLogging t
  return { server, database, logging }

end CardDesk.Settings
