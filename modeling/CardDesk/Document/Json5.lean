import CardDesk.Document
import CardDesk.Document.Scan

namespace CardDesk.Json5

open Scan

def isSpace (c : Char) : Bool :=
  c = ' ' || c = '\t' || c = '\n' || c = '\r' || c = '\x0b' || c = '\x0c' || c = '\u00a0' ||
    c = '\ufeff' || c = '\u2028' || c = '\u2029'

def untilStarSlash : List Char → Option (Unit × List Char)
  | '*' :: '/' :: r => some ((), r)
  | _ :: r => untilStarSlash r
  | [] => none

def comment : Scan Unit :=
  (do
    literal ['/', '/']
    let _ ← span (· != '\n')) <|>
  (do
    literal ['/', '*']
    untilStarSlash)

def gap : Scan Unit := do
  let _ ← many ((one isSpace *> pure ()) <|> comment)

def escape : Scan (List Char) := do
  char '\\'
  match ← one fun _ => true with
  | 'b' => return ['\x08']
  | 'f' => return ['\x0c']
  | 'n' => return ['\n']
  | 'r' => return ['\r']
  | 't' => return ['\t']
  | 'v' => return ['\x0b']
  | '0' => return ['\x00']
  | 'x' => return [← coded 2]
  | 'u' => return [← coded 4]
  | '\n' => return []
  | c => return [c]

def quotedText (quote : Char) : Scan String := do
  char quote
  let cs ← many (escape <|>
    (one (fun c => c != quote && c != '\\' && c != '\n' && c != '\r') >>= fun c => pure [c]))
  char quote
  return String.ofList cs.flatten

def text : Scan String :=
  quotedText '"' <|> quotedText '\''

def isNameStart (c : Char) : Bool :=
  c.isAlpha || c = '_' || c = '$' || 0x80 ≤ c.toNat && !isSpace c

def name : Scan String := do
  let c ← one isNameStart
  return String.ofList (c :: (← span fun c => isNameStart c || c.isDigit))

def key : Scan String :=
  text <|> name

def isNumberChar (c : Char) : Bool :=
  c.isAlphanum || c = '.' || c = '+' || c = '-'

def wordValue? (cs : List Char) : Option Document :=
  let (minus, r) := Literal.splitSign cs
  let signed (n : Nat) : Document :=
    if n ≤ 9223372036854775807 then .integer (if minus then -n else n)
    else .number (if minus then (Double.ofNat n).neg else .ofNat n)
  match String.ofList cs with
  | "null" => some .null
  | "true" => some (.boolean true)
  | "false" => some (.boolean false)
  | _ =>
    match String.ofList r with
    | "Infinity" => some (.number (.infinite minus))
    | "NaN" => some (.number .nan)
    | _ =>
      match r with
      | '0' :: 'x' :: h =>
        (Literal.based? 16 h).map signed
      | r =>
        match Literal.natural? r with
        | some n => some (signed n)
        | none => (Literal.magnitude? minus r).map .number

def word : Scan Document := do
  StateT.lift (wordValue? (← some1 isNumberChar))

def member (value : Scan Document) : Scan (String × Document) := do
  let k ← key
  gap
  char ':'
  gap
  return (k, ← value)

def table (members : List (String × Document)) : Document :=
  .table (members.foldl (fun ms (k, v) => Keyed.put k v ms) [])

def value : Nat → Scan Document
  | 0 => (do return .text (← text)) <|> word
  | depth + 1 =>
    (do return .text (← text)) <|> word <|>
    (do return .list (← bracketed gap '[' ']' (value depth))) <|>
    (do return table (← bracketed gap '\x7b' '\x7d' (member (value depth))))

def document? (s : String) : Option Document :=
  all (gap *> value s.length <* gap) s.toList

end CardDesk.Json5
