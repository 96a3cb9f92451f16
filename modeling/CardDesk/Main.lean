import CardDesk.Boot.Start
import CardDesk.Http.Desk
import Std.Async.Signal
import Std.Http.Server
import Std.Internal.UV.System

/-!
The program: it starts a desk, lets it answer over HTTP until it is told to stop, and keeps its
cards in memory. It has no way to reach a database.
-/

namespace CardDesk.Program

open Std.Async

def now : IO Moment := do
  let t ← Std.Time.PlainDateTime.now
  let date : Date := ⟨t.date.year.toInt.toNat, t.date.month.val.toNat, t.date.day.val.toNat⟩
  let time : TimeOfDay :=
    ⟨t.time.hour.val.toNat, t.time.minute.val.toNat, t.time.second.val.toNat,
      t.time.nanosecond.val.toNat⟩
  return .dateTime date time none

def writeLog (logging : Boot.Logging) (records : List Record) : IO Unit := do
  let out ← IO.getStdout
  for r in logging.pass records do
    out.putStrLn (logging.line (← now) r)
  out.flush

def readFile? (path : String) : IO (Option (String × String)) := do
  match ← (IO.FS.readFile path).toBaseIO with
  | .ok text => return some (path, text)
  | .error _ => return none

def readFolder (env : Settings.Environment) : IO Settings.Folder := do
  let names := Boot.dotenvPath :: Settings.candidates Settings.defaultFile ++
    Settings.candidates (Settings.modeFile env)
  return .ofFiles (← names.filterMapM readFile?)

def surroundings : IO Boot.Surroundings := do
  let environment := (← Std.Internal.UV.System.osEnviron).toList
  let network : Sql.Network := .down .unreachable
  let beside ← readFolder environment
  let w : Boot.Surroundings := ⟨environment, beside, network, fun _ => .ok ()⟩
  return { w with folder := ← readFolder w.variables }

def bindError : IO.Error → Boot.BindError
  | .resourceBusy .. => .inUse
  | .alreadyExists .. => .inUse
  | .permissionDenied .. => .denied
  | _ => .notAvailable

def networkAddress (a : Boot.SocketAddress) : Std.Net.SocketAddress :=
  match a.ip with
  | .v4 bytes =>
    let part (i : Nat) := bytes.getD i 0
    .v4 ⟨.ofParts (part 0) (part 1) (part 2) (part 3), a.port⟩
  | .v6 groups =>
    let part (i : Nat) := groups.getD i 0
    .v6 ⟨.ofParts (part 0) (part 1) (part 2) (part 3) (part 4) (part 5) (part 6) (part 7), a.port⟩

structure Desk where
  seconds : UInt64
  logging : Boot.Logging
  world : Std.Mutex World

def respond (r : Http.Response) : Async (Std.Http.Response Std.Http.Body.Full) := do
  let status := (Std.Http.Status.ofCode none (UInt16.ofNat r.status.code)).getD .ok
  let headers := r.headers.filter fun h => h.1 != "content-length"
  let builder := headers.foldl (fun b (k, v) => (b.header? k v).getD b)
    (Std.Http.Response.Builder.new.status status)
  builder.fromBytes r.body.toUTF8

def serve (desk : Desk) (request : Std.Http.Request Std.Http.Body.Stream) :
    Async (Std.Http.Response Std.Http.Body.Full) := do
  let body : Except IO.Error ByteArray ← try
      pure (.ok (← request.body.readAll))
    catch e => pure (.error e)
  let q : Http.Request :=
    { method := toString request.line.method, target := toString request.line.uri
      pieces := match body with
        | .ok bytes => [bytes.toList]
        | .error _ => []
      failure := match body with
        | .ok _ => none
        | .error e => some (toString e) }
  let x ← desk.world.atomically do
    let x := Http.serve desk.seconds q (← get)
    set x.world
    return x
  writeLog desk.logging (Event.records x.events)
  respond x.response

instance : Std.Http.Server.Handler Desk where
  ResponseBody := Std.Http.Body.Full
  onRequest desk request := serve desk request

def waitForSignal : Async Unit := do
  let interrupt ← Signal.Waiter.mk .sigint false
  let terminate ← Signal.Waiter.mk .sigterm false
  Selectable.one #[
    .case interrupt.selector pure,
    .case terminate.selector pure]

def listen (desk : Desk) (a : Boot.SocketAddress) :
    Async (Except Boot.BindError Std.Http.Server) := do
  try
    return .ok (← Std.Http.Server.serve (networkAddress a) desk)
  catch e => return .error (bindError e)

def fail (s : Boot.Start) : IO UInt32 := do
  (← IO.getStderr).putStr s.report
  return 1

def run : Async UInt32 := do
  let w ← surroundings
  let hoped := Boot.start w
  match hoped.logging, hoped.result with
  | some logging, .ok running =>
    let desk : Desk :=
      ⟨running.settings.server.requestTimeoutSecs, logging, ← Std.Mutex.new (.fresh .none)⟩
    let listening ← listen desk running.address
    let s := Boot.start { w with bind := fun _ => listening.map fun _ => () }
    writeLog logging s.records
    match listening with
    | .error _ => fail s
    | .ok server =>
      (← IO.getStderr).putStr s.report
      waitForSignal
      writeLog logging [.stopping]
      server.shutdownAndWait
      writeLog logging [.released]
      return 0
  | logging, _ =>
    if let some l := logging then writeLog l hoped.records
    fail hoped

end CardDesk.Program

def main : IO UInt32 :=
  CardDesk.Program.run.block
