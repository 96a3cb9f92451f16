import CardDesk.Number.Literal

namespace CardDesk

abbrev Scan := StateT (List Char) Option

namespace Scan

def dropMark (cs : List Char) : List Char :=
  if cs.head? = some '\uFEFF' then cs.tail else cs

def all (p : Scan α) (s : List Char) : Option α :=
  match p s with
  | some (a, []) => some a
  | _ => none

def one (accept : Char → Bool) : Scan Char
  | [] => none
  | c :: r => if accept c then some (c, r) else none

def span (accept : Char → Bool) : Scan (List Char) := fun s =>
  some (s.takeWhile accept, s.dropWhile accept)

def some1 (accept : Char → Bool) : Scan (List Char) := do
  let c ← one accept
  return c :: (← span accept)

def literal : List Char → Scan Unit
  | [], s => some ((), s)
  | _ :: _, [] => none
  | c :: t, d :: r => if c = d then literal t r else none

def char (c : Char) : Scan Unit :=
  literal [c]

def taken (t : List Char) : Scan Bool := fun s =>
  match literal t s with
  | some (_, r) => some (true, r)
  | none => some (false, s)

def peek : Scan (Option Char) := fun s =>
  some (s.head?, s)

def exactly (accept : Char → Bool) : Nat → Scan (List Char)
  | 0 => pure []
  | n + 1 => do
    let c ← one accept
    return c :: (← exactly accept n)

def charOf (digits : List Char) : Scan Char :=
  let n := Literal.basedValue 16 digits
  if n.isValidChar then pure (Char.ofNat n) else failure

def coded (digits : Nat) : Scan Char := do
  charOf (← exactly Literal.isHexDigit digits)

def atEnd : Scan Unit
  | [] => some ((), [])
  | _ :: _ => none

def upTo (p : Scan α) : Nat → List Char → List α × List Char
  | 0, s => ([], s)
  | fuel + 1, s =>
    match p s with
    | none => ([], s)
    | some (a, r) =>
      let (as, r) := upTo p fuel r
      (a :: as, r)

def many (p : Scan α) : Scan (List α) := fun s =>
  some (upTo p s.length s)

def separated (p : Scan α) (separator : Scan Unit) : Scan (List α) :=
  (do
    let a ← p
    return a :: (← many (do separator; p))) <|>
  pure []

def bracketed (gap : Scan Unit) (left right : Char) (item : Scan α) : Scan (List α) := do
  char left
  gap
  let items ← separated (item <* gap) (char ',' *> gap)
  let _ ← taken (if items.isEmpty then [] else [','])
  gap
  char right
  return items

def foldUpTo (step : α → Scan α) : Nat → α → List Char → Option α
  | _, a, [] => some a
  | 0, _, _ => none
  | fuel + 1, a, s =>
    match step a s with
    | none => none
    | some (a, r) => foldUpTo step fuel a r

def fold (step : α → Scan α) (a : α) (s : List Char) : Option α :=
  foldUpTo step s.length a s

end Scan

end CardDesk
