import CardDesk.Document.Json5

namespace CardDesk.Ron

open Scan

def isSpace (c : Char) : Bool :=
  c = ' ' || c = '\t' || c = '\n' || c = '\r'

def gap : Scan Unit := do
  let _ ← many ((one isSpace *> pure ()) <|> Json5.comment)

def codedChar : Scan Char := do
  char '\x7b'
  let c ← charOf (← some1 Literal.isHexDigit)
  char '\x7d'
  return c

def escape : Scan Char := do
  char '\\'
  match ← one fun _ => true with
  | '\'' => return '\''
  | '"' => return '"'
  | '\\' => return '\\'
  | 'n' => return '\n'
  | 'r' => return '\r'
  | 't' => return '\t'
  | '0' => return '\x00'
  | 'x' => coded 2
  | 'u' => codedChar
  | _ => failure

def text : Scan String := do
  char '"'
  let cs ← many (escape <|> one fun c => c != '"' && c != '\\')
  char '"'
  return String.ofList cs

def rawText : Scan String := do
  literal ['r', '"']
  let cs ← span (· != '"')
  char '"'
  return String.ofList cs

def letter : Scan String := do
  char '\''
  let c ← escape <|> one fun c => c != '\'' && c != '\\'
  char '\''
  return String.ofList [c]

def isNameChar (c : Char) : Bool :=
  c.isAlphanum || c = '_'

def name : Scan String := do
  let c ← one fun c => c.isAlpha || c = '_'
  return String.ofList (c :: (← span isNameChar))

def isNumberChar (c : Char) : Bool :=
  c.isAlphanum || c = '.' || c = '+' || c = '-' || c = '_'

def numberValue? (cs : List Char) : Option Document :=
  let cs := cs.filter (· != '_')
  match cs with
  | '0' :: 'x' :: h => (Literal.based? 16 h).map fun n => .integer n
  | '0' :: 'o' :: h => (Literal.based? 8 h).map fun n => .integer n
  | '0' :: 'b' :: h => (Literal.based? 2 h).map fun n => .integer n
  | cs =>
    match Literal.int64? cs with
    | some n => some (.integer n)
    | none => (Literal.double? cs).map .number

def number : Scan Document := do
  StateT.lift (numberValue? (← some1 isNumberChar))

def pair (key : Scan String) (value : Scan Document) : Scan (String × Document) := do
  let k ← key
  gap
  char ':'
  gap
  return (k, ← value)

def wordValue? : String → Option Document
  | "true" => some (.boolean true)
  | "false" => some (.boolean false)
  | "None" => some .null
  | "inf" => some (.number (.infinite false))
  | "NaN" => some (.number .nan)
  | _ => none

def word : Scan Document := do
  StateT.lift (wordValue? (← name))

def parentheses (value : Scan Document) : Scan Document :=
  (do
    char '('
    gap
    char ')'
    return .null) <|>
  (do return Json5.table (← bracketed gap '(' ')' (pair name value))) <|>
  (do return .list (← bracketed gap '(' ')' value))

def optional (value : Scan Document) : Scan Document := do
  literal ['S', 'o', 'm', 'e']
  gap
  char '('
  gap
  let v ← value
  gap
  let _ ← taken [',']
  gap
  char ')'
  return v

def scalar : Scan Document :=
  (do return .text (← text <|> rawText <|> letter)) <|> word <|> number

def value : Nat → Scan Document
  | 0 => scalar
  | depth + 1 =>
    scalar <|>
    (do return .list (← bracketed gap '[' ']' (value depth))) <|>
    (do return Json5.table (← bracketed gap '\x7b' '\x7d' (pair text (value depth)))) <|>
    optional (value depth) <|>
    parentheses (value depth) <|>
    (name *> gap *> parentheses (value depth))

def maxDepth : Nat := 127

def document? (s : String) : Option Document :=
  all (gap *> value maxDepth <* gap) s.toList

end CardDesk.Ron
