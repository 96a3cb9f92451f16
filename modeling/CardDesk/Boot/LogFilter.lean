import CardDesk.Document.Scan
import CardDesk.Number.Literal
import CardDesk.Record
import CardDesk.Text.Blank

namespace CardDesk.Boot

inductive Verbosity where
  | off
  | upTo (l : Level)
  | everything
  deriving DecidableEq, Repr

def severity : Level → Nat
  | .error => 0
  | .warn => 1
  | .info => 2
  | .debug => 3

namespace Verbosity

def allows : Verbosity → Level → Bool
  | off, _ => false
  | upTo l, level => severity level ≤ severity l
  | everything, _ => true

def ofNumber? : Nat → Option Verbosity
  | 0 => some off
  | 1 => some (upTo .error)
  | 2 => some (upTo .warn)
  | 3 => some (upTo .info)
  | 4 => some (upTo .debug)
  | 5 => some everything
  | _ => none

def ofWord? : String → Option Verbosity
  | "" => some (upTo .error)
  | "off" => some off
  | "error" => some (upTo .error)
  | "warn" => some (upTo .warn)
  | "info" => some (upTo .info)
  | "debug" => some (upTo .debug)
  | "trace" => some everything
  | _ => none

def read? (s : String) : Option Verbosity :=
  match Literal.uint64? s.toList with
  | some n => ofNumber? n
  | none => ofWord? (String.ofList (s.toList.map Char.toLower))

end Verbosity

structure Directive where
  target : Option String
  verbosity : Verbosity
  deriving DecidableEq, Repr

inductive DirectiveError where
  | malformed
  | badLevel
  deriving DecidableEq, Repr

def DirectiveError.message : DirectiveError → String
  | malformed => "invalid filter directive"
  | badLevel =>
    "error parsing level filter: expected one of \"off\", \"error\", \"warn\", \"info\", " ++
      "\"debug\", \"trace\", or a number 0-5"

namespace Directive

def isStart (c : Char) : Bool :=
  c = '-' || c = ':' || c = '_' || c.isAlphanum || 0x80 ≤ c.toNat

def readVerbosity (cs : List Char) : Except DirectiveError Verbosity :=
  if cs.isEmpty then .ok .everything
  else
    match Verbosity.read? (String.ofList cs) with
    | some v => .ok v
    | none => .error .badLevel

def ofWord (word : String) : Directive :=
  match Verbosity.read? word with
  | some v => ⟨none, v⟩
  | none => ⟨some word, .everything⟩

def readAfterSpan (cs : List Char) : Except DirectiveError (Option Directive) :=
  match cs.dropWhile (· != ']') with
  | [_] => .ok none
  | _ :: '=' :: r => (readVerbosity r).map fun _ => none
  | _ => .error .malformed

/-- Reads a directive. One that asks for a span says nothing about the records of the desk, which
are not written inside of spans. Where the target ends is found without the blanks around, which
count as part of the text all the same. -/
def read (s : String) : Except DirectiveError (Option Directive) :=
  let cs := (Text.trim s).toList
  match cs with
  | [] => .error .malformed
  | '[' :: r => readAfterSpan r
  | c :: _ =>
    if !isStart c then .error .malformed
    else
      let length := (cs.takeWhile fun c => c != '=' && c != '[').length
      let word := String.ofList (s.toList.take length)
      match cs.drop length with
      | '=' :: _ => (readVerbosity (s.toList.drop (length + 1))).map fun v => some ⟨some word, v⟩
      | '[' :: r => readAfterSpan r
      | _ => .ok (some (ofWord s))

def covers (d : Directive) (target : String) : Bool :=
  match d.target with
  | none => true
  | some t => target.startsWith t

def weight (d : Directive) : Nat :=
  match d.target with
  | none => 0
  | some t => t.utf8ByteSize + 1

end Directive

structure LogFilter where
  directives : List Directive
  deriving DecidableEq, Repr

namespace LogFilter

def ofDirectives (ds : List (Option Directive)) : LogFilter :=
  if ds.isEmpty then ⟨[⟨none, .upTo .error⟩]⟩ else ⟨ds.filterMap fun d => d⟩

def parts (s : String) : List String :=
  (s.splitOn ",").filter (· ≠ "")

def read? (s : String) : Option LogFilter :=
  match (parts s).mapM Directive.read with
  | .ok ds => some (ofDirectives ds)
  | .error _ => none

def warning (part : String) (e : DirectiveError) : String :=
  "ignoring `" ++ part ++ "`: " ++ e.message ++ "\n"

def readLoosely (s : String) : LogFilter × List String :=
  let read := (parts s).map fun part => (part, Directive.read part)
  let good := read.filterMap fun (_, d) => d.toOption
  let warnings := read.filterMap fun
    | (part, .error e) => some (warning part e)
    | _ => none
  (ofDirectives good, warnings)

def deciding? (f : LogFilter) (target : String) : Option Directive :=
  (f.directives.filter fun d => d.covers target).foldl (fun best d =>
    match best with
    | none => some d
    | some b => if b.weight ≤ d.weight then some d else some b) none

def allows (f : LogFilter) (target : String) (level : Level) : Bool :=
  match f.deciding? target with
  | none => false
  | some d => d.verbosity.allows level

end LogFilter

end CardDesk.Boot
