import CardDesk.Document.Scan

namespace CardDesk.Toml

open Scan

def isSpace (c : Char) : Bool :=
  c = ' ' || c = '\t'

def isTextChar (c : Char) : Bool :=
  c = '\t' || (0x20 ≤ c.toNat && c.toNat ≠ 0x7F)

def spaces : Scan Unit := do
  let _ ← span isSpace

def newline : Scan Unit :=
  literal ['\n'] <|> literal ['\r', '\n']

def comment : Scan Unit := do
  char '#'
  let _ ← span isTextChar

def gap : Scan Unit := do
  let _ ← many ((one isSpace *> pure ()) <|> newline <|> (comment *> newline))

def shortEscape? : Char → Option Char
  | 'b' => some '\x08'
  | 't' => some '\t'
  | 'n' => some '\n'
  | 'f' => some '\x0c'
  | 'r' => some '\r'
  | '"' => some '"'
  | '\\' => some '\\'
  | _ => none

def escape : Scan Char := do
  char '\\'
  match ← one fun _ => true with
  | 'u' => coded 4
  | 'U' => coded 8
  | c => StateT.lift (shortEscape? c)

def basicChar : Scan Char :=
  one (fun c => isTextChar c && c != '"' && c != '\\') <|> escape

def literalChar : Scan Char :=
  one fun c => isTextChar c && c != '\''

def basicText : Scan (List Char) := do
  char '"'
  let cs ← many basicChar
  char '"'
  return cs

def literalText : Scan (List Char) := do
  char '\''
  let cs ← many literalChar
  char '\''
  return cs

def hiddenNewline : Scan (List Char) := do
  char '\\'
  spaces
  newline
  let _ ← many ((one isSpace *> pure ()) <|> newline)
  return []

def loneQuote (quote : Char) : Scan (List Char) := fun s =>
  if (literal [quote, quote, quote] s).isSome then none
  else (char quote s).map fun (_, r) => ([quote], r)

def lines (quote : Char) (piece : Scan (List Char)) : Scan (List Char) := do
  literal [quote, quote, quote]
  newline <|> pure ()
  let pieces ← many ((newline *> pure ['\n']) <|> loneQuote quote <|> piece)
  literal [quote, quote, quote]
  let more := (if ← taken [quote] then [quote] else []) ++ (if ← taken [quote] then [quote] else [])
  return pieces.flatten ++ more

def basicLines : Scan (List Char) :=
  lines '"' ((basicChar >>= fun c => pure [c]) <|> hiddenNewline)

def literalLines : Scan (List Char) :=
  lines '\'' (literalChar >>= fun c => pure [c])

def text : Scan String := do
  return String.ofList (← basicLines <|> literalLines <|> basicText <|> literalText)

def isBareKeyChar (c : Char) : Bool :=
  c.isAlphanum || c = '_' || c = '-'

def simpleKey : Scan String := do
  return String.ofList (← basicText <|> literalText <|> some1 isBareKeyChar)

def maxDepth : Nat := 79

def key : Scan (List String × String) := do
  let part : Scan String := do
    spaces
    let k ← simpleKey
    spaces
    return k
  let first ← part
  let more ← many (char '.' *> part)
  if maxDepth < more.length + 1 then failure
  let all := first :: more
  return (all.dropLast, all.getLastD first)

end CardDesk.Toml
