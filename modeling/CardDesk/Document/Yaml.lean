import CardDesk.Document.Json5

/-!
YAML texts as documents, as far as settings need them: block mappings and sequences, flow
collections on one line, plain and quoted scalars, and comments.
-/

namespace CardDesk.Yaml

open Scan

def flowMarks : List Char := ['[', ']', '\x7b', '\x7d', ',']

def startMarks : List Char := ['&', '*', '!', '|', '>', '%', '@', '\x60']

def quoteMarks : List Char := ['"', '\'']

structure Line where
  indent : Nat
  content : List Char
  deriving Repr

def isSpace (c : Char) : Bool :=
  c = ' ' || c = '\t'

def cutComment (quote : Option Char) (spaced : Bool) : List Char → List Char
  | [] => []
  | c :: r =>
    match quote with
    | some q => c :: cutComment (if c = q then none else quote) false r
    | none =>
      if c = '#' && spaced then []
      else if (c = '"' || c = '\'') && spaced then c :: cutComment (some c) false r
      else c :: cutComment none (isSpace c || c = '[' || c = ',' || c = '\x7b') r

def trimRight (cs : List Char) : List Char :=
  (cs.reverse.dropWhile fun c => isSpace c || c = '\r').reverse

def line? (cs : List Char) : Option Line :=
  let content := trimRight (cutComment none true (cs.dropWhile (· == ' ')))
  if content.isEmpty then none
  else some ⟨(cs.takeWhile (· == ' ')).length, content⟩

def strangeNumbers : List String :=
  [".inf", ".Inf", ".INF", "+.inf", "+.Inf", "+.INF", "-.inf", "-.Inf", "-.INF", ".nan", ".NAN"]

def integer? (cs : List Char) : Option Int :=
  match cs with
  | '0' :: 'x' :: h => (Literal.based? 16 h).map fun n => n
  | '0' :: 'o' :: h => (Literal.based? 8 h).map fun n => n
  | cs => Literal.int64? cs

def plain? (cs : List Char) : Option Document :=
  match String.ofList cs with
  | "" => some .null
  | "~" => some .null
  | "null" => some .null
  | "true" => some (.boolean true)
  | "false" => some (.boolean false)
  | s =>
    if strangeNumbers.contains s then none
    else
      match integer? cs with
      | some n => some (.integer n)
      | none => some (((Literal.double? cs).map .number).getD (.text s))

def escape : Scan Char := do
  char '\\'
  match ← one fun _ => true with
  | '0' => return '\x00'
  | 'a' => return '\x07'
  | 'b' => return '\x08'
  | 't' => return '\t'
  | 'n' => return '\n'
  | 'v' => return '\x0b'
  | 'f' => return '\x0c'
  | 'r' => return '\r'
  | 'e' => return '\x1b'
  | ' ' => return ' '
  | '"' => return '"'
  | '/' => return '/'
  | '\\' => return '\\'
  | 'x' => coded 2
  | 'u' => coded 4
  | 'U' => coded 8
  | _ => failure

def doubleQuoted : Scan String := do
  char '"'
  let cs ← many (escape <|> one fun c => c != '"' && c != '\\')
  char '"'
  return String.ofList cs

def singleQuoted : Scan String := do
  char '\''
  let cs ← many ((literal ['\'', '\''] *> pure '\'') <|> one (· != '\''))
  char '\''
  return String.ofList cs

def quoted : Scan String :=
  doubleQuoted <|> singleQuoted

def spaces : Scan Unit := do
  let _ ← span isSpace

def flowPlain : Scan (List Char) := do
  let c ← one fun c => !(flowMarks ++ startMarks ++ quoteMarks ++ ['#']).contains c
  let cs ← many (one (fun c => !(':' :: flowMarks).contains c) <|> (do
    char ':'
    match ← peek with
    | some d => if isSpace d then failure else return ':'
    | none => failure))
  return trimRight (c :: cs)

def flowKey : Scan String :=
  quoted <|> (do return String.ofList (← flowPlain))

def flowMember (value : Scan Document) : Scan (String × Document) := do
  let k ← flowKey
  spaces
  char ':'
  spaces
  return (k, ← value)

def flowScalar : Scan Document :=
  (do return .text (← quoted)) <|> (do StateT.lift (plain? (← flowPlain)))

def flowValue : Nat → Scan Document
  | 0 => flowScalar
  | depth + 1 =>
    (do return .list (← bracketed spaces '[' ']' (flowValue depth))) <|>
    (do return Json5.table (← bracketed spaces '\x7b' '\x7d' (flowMember (flowValue depth)))) <|>
    flowScalar

def inlineValue? (cs : List Char) : Option Document :=
  match cs with
  | [] => some .null
  | c :: _ =>
    if c = '"' || c = '\'' then (all quoted cs).map .text
    else if c = '[' || c = '\x7b' then all (flowValue cs.length) cs
    else if (flowMarks ++ startMarks).contains c then none
    else plain? cs

def splitKey? (cs : List Char) : Option (String × List Char) :=
  let rest : Scan Unit := do
    spaces
    char ':'
    match ← peek with
    | some c => if isSpace c then spaces else failure
    | none => pure ()
  let quotedKey : Scan String := quoted <* rest
  let plainKey : Scan String := do
    let k ← many (one (· != ':') <|> (do
      char ':'
      match ← peek with
      | some d => if isSpace d then failure else return ':'
      | none => failure))
    rest
    if k.isEmpty then failure else return String.ofList (trimRight k)
  match quotedKey cs with
  | some (k, r) => some (k, r)
  | none =>
    match cs with
    | [] => none
    | c :: _ => if (flowMarks ++ startMarks ++ quoteMarks).contains c then none else plainKey cs

def dashed? (l : Line) : Option (Option Line) :=
  match l.content with
  | ['-'] => some none
  | '-' :: ' ' :: r =>
    let blanks := (r.takeWhile (· == ' ')).length
    some (some ⟨l.indent + 2 + blanks, r.drop blanks⟩)
  | _ => none

mutual

def block : Nat → Nat → List Line → Option (Document × List Line)
  | 0, _, _ => none
  | _ + 1, _, [] => some (.null, [])
  | fuel + 1, least, l :: ls =>
    if l.indent < least then some (.null, l :: ls)
    else if (dashed? l).isSome then
      (elements fuel l.indent (l :: ls)).map fun (ds, ls) => (.list ds, ls)
    else if (splitKey? l.content).isSome then
      (members fuel l.indent [] (l :: ls)).map fun (ms, ls) => (.table ms, ls)
    else (inlineValue? l.content).map fun d => (d, ls)

def elements : Nat → Nat → List Line → Option (List Document × List Line)
  | 0, _, _ => none
  | _ + 1, _, [] => some ([], [])
  | fuel + 1, indent, l :: ls =>
    if l.indent < indent then some ([], l :: ls)
    else if indent < l.indent then none
    else match dashed? l with
      | none => some ([], l :: ls)
      | some first =>
        match block fuel (indent + 1) (first.toList ++ ls) with
        | none => none
        | some (d, ls) => (elements fuel indent ls).map fun (ds, ls) => (d :: ds, ls)

def members : Nat → Nat → Document.Members → List Line →
    Option (Document.Members × List Line)
  | 0, _, _, _ => none
  | _ + 1, _, ms, [] => some (ms, [])
  | fuel + 1, indent, ms, l :: ls =>
    if l.indent < indent then some (ms, l :: ls)
    else if indent < l.indent then none
    else match splitKey? l.content with
      | none => none
      | some (k, []) =>
        let least := if (ls.head?.bind dashed?).isSome then indent else indent + 1
        match block fuel least ls with
        | none => none
        | some (d, ls) => members fuel indent (Keyed.put k d ms) ls
      | some (k, r) =>
        match inlineValue? r with
        | none => none
        | some d => members fuel indent (Keyed.put k d ms) ls

end

def isStart (l : Line) : Bool :=
  l.indent == 0 && l.content == ['-', '-', '-']

def isStop (l : Line) : Bool :=
  l.indent == 0 && l.content == ['.', '.', '.']

def documentLines? (ls : List Line) : Option (List Line) :=
  let ls := if ls.head?.any isStart then ls.tail else ls
  let ls := if ls.getLast?.any isStop then ls.dropLast else ls
  if ls.any fun l => isStart l || isStop l then none else some ls

def document? (s : String) : Option Document :=
  match documentLines? ((s.splitOn "\n").filterMap fun l => line? l.toList) with
  | none => none
  | some [] => some (.table [])
  | some ls =>
    match block (2 * s.length + 2) 0 ls with
    | some (d, []) => some d
    | _ => none

end CardDesk.Yaml
