import CardDesk.Document.Scan
import CardDesk.Settings.Environment
import CardDesk.Text.Blank

namespace CardDesk.Boot.Dotenv

open Settings

inductive Mark where
  | complete
  | escape
  | strong
  | strongEscape
  | weak
  | weakEscape
  | blank
  deriving DecidableEq, Repr

def isLineEnd (c : Char) : Bool :=
  c = '\n' || c = '\r'

def Mark.outside (c : Char) : Mark :=
  if c = '\\' then .escape
  else if c = '"' then .weak
  else if c = '\'' then .strong
  else .complete

def Mark.next : Mark → Char → Mark
  | complete, c => if Text.isBlank c && !isLineEnd c then blank else outside c
  | blank, c => outside c
  | escape, _ => complete
  | strong, c => if c = '\\' then strongEscape else if c = '\'' then complete else strong
  | strongEscape, _ => strong
  | weak, c => if c = '\\' then weakEscape else if c = '"' then complete else weak
  | weakEscape, _ => weak

def scanLine (mark : Mark) (done : List Char) : List Char → Mark × List Char × Bool
  | [] => (mark, done.reverse, false)
  | c :: r =>
    if mark = .blank ∧ c = '#' then (mark, done.reverse, true)
    else scanLine (mark.next c) (c :: done) r

def splitLines (current : List Char) : List Char → List (List Char)
  | [] => if current.isEmpty then [] else [current.reverse]
  | '\n' :: r => ('\n' :: current).reverse :: splitLines [] r
  | c :: r => splitLines (c :: current) r

def isComment (cs : List Char) : Bool :=
  (cs.dropWhile Text.isBlank).head? = some '#'

def withoutLineEnd (cs : List Char) : List Char :=
  match cs.reverse with
  | '\n' :: '\r' :: r => r.reverse
  | '\n' :: r => r.reverse
  | _ => cs

def logicalLines (mark : Mark) (before : List Char) : List (List Char) → List (Option (List Char))
  | [] => if mark = .complete then [] else [none]
  | l :: ls =>
    if isComment (before ++ l) then logicalLines .complete [] ls
    else
      match scanLine mark [] l with
      | (_, part, true) => some (before ++ part) :: logicalLines .complete [] ls
      | (.complete, part, false) =>
        some (withoutLineEnd (before ++ part)) :: logicalLines .complete [] ls
      | (mark, part, false) => logicalLines mark (before ++ part) ls

inductive Reference where
  | none
  | bare (name : List Char)
  | braced (name : List Char)
  deriving DecidableEq, Repr

inductive Quote where
  | none
  | strong
  | weak
  deriving DecidableEq, Repr

structure Reading where
  output : List Char := []
  quote : Quote := .none
  escaped : Bool := false
  ending : Bool := false
  reference : Reference := .none

abbrev Lookup := String → String

def Reading.add (r : Reading) (c : Char) : Reading :=
  { r with output := c :: r.output }

def Reading.resolve (find : Lookup) (name : List Char) (r : Reading) : Reading :=
  let value := find (String.ofList name.reverse)
  { r with output := value.toList.reverse ++ r.output, reference := .none }

def isNameChar (c : Char) : Bool :=
  c.isAlphanum

def Reading.refer (find : Lookup) (r : Reading) (c : Char) : Reading :=
  match r.reference with
  | .none => r
  | .bare name =>
    if isNameChar c then { r with reference := .bare (c :: name) }
    else if c = '\x7b' && name.isEmpty then { r with reference := .braced [] }
    else
      let r := r.resolve find name
      if c = '$' then { r with reference := .bare [] } else r.add c
  | .braced name =>
    if isNameChar c then { r with reference := .braced (c :: name) }
    else if c = '\x7d' then r.resolve find name
    else { r with reference := .braced (c :: name) }

def escapedChar? (c : Char) : Option Char :=
  if c = 'n' then some '\n'
  else if ['\\', '\'', '"', '$', ' '].contains c then some c
  else none

def Reading.step (find : Lookup) (r : Reading) (c : Char) : Option Reading :=
  if r.escaped then (escapedChar? c).map fun c => { r.add c with escaped := false }
  else if r.quote = .strong then
    some (if c = '\'' then { r with quote := .none } else r.add c)
  else if r.reference ≠ .none then some (r.refer find c)
  else if c = '$' then some { r with reference := .bare [] }
  else if c = '\\' then some { r with escaped := true }
  else if r.quote = .weak then some (if c = '"' then { r with quote := .none } else r.add c)
  else if c = '\'' then some { r with quote := .strong }
  else if c = '"' then some { r with quote := .weak }
  else if c = ' ' || c = '\t' then some { r with ending := true }
  else some (r.add c)

def readValue (find : Lookup) (r : Reading) : List Char → Option Reading
  | [] => some r
  | c :: cs =>
    if r.ending then
      if c = ' ' || c = '\t' then readValue find r cs
      else if c = '#' then some r
      else none
    else
      match r.step find c with
      | none => none
      | some r => readValue find r cs

def value? (find : Lookup) (cs : List Char) : Option String := do
  let r ← readValue find {} cs
  if r.quote ≠ .none then none
  else
    let r := match r.reference with
      | .none => r
      | .bare name => r.resolve find name
      | .braced _ => r
    match r.reference with
    | .braced _ => none
    | _ => some (String.ofList r.output.reverse)

open Scan

def blanks : Scan Unit := do
  let _ ← span Text.isBlank

def isKeyStart (c : Char) : Bool :=
  c.isAlpha || c = '_'

def isKeyChar (c : Char) : Bool :=
  c.isAlphanum || c = '_' || c = '.'

def readKey : Scan String := do
  let c ← one isKeyStart
  return String.ofList (c :: (← span isKeyChar))

def readName : Scan String := do
  let key ← readKey
  blanks
  if key = "export" then
    (char '=' *> pure key) <|> do
      let key ← readKey
      blanks
      char '='
      return key
  else
    char '='
    return key

def readLine? (find : Lookup) (cs : List Char) : Option (Option (String × String)) :=
  let cs := cs.dropWhile Text.isBlank
  if cs.isEmpty || cs.head? = some '#' then some none
  else
    match (readName <* blanks) cs with
    | none => none
    | some (name, rest) =>
      if rest.isEmpty || rest.head? = some '#' then some (some (name, ""))
      else (value? find rest).map fun v => some (name, v)

def lookup (env seen : Environment) (name : String) : String :=
  ((env.lookup name).orElse fun _ => seen.lookup name).getD ""

def addLines (env seen : Environment) : List (Option (List Char)) → Environment
  | [] => env
  | none :: _ => env
  | some l :: ls =>
    match readLine? (lookup env seen) l with
    | none => env
    | some none => addLines env seen ls
    | some (some (name, value)) =>
      let seen := Keyed.put name value seen
      if (env.lookup name).isSome then addLines env seen ls
      else addLines (env ++ [(name, value)]) seen ls

def extend (env : Environment) (text : String) : Environment :=
  addLines env [] (logicalLines .complete [] (splitLines [] (Scan.dropMark text.toList)))

end CardDesk.Boot.Dotenv
