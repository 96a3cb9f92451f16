import CardDesk.Toml.Text

namespace CardDesk.Toml

open Scan

def digits (first : Char → Bool) (other : Char → Bool) : Scan (List Char) := do
  let c ← one first
  return c :: (← many (one other <|> (char '_' *> one other)))

def sign : Scan (List Char) := fun s =>
  match s with
  | '+' :: r => some (['+'], r)
  | '-' :: r => some (['-'], r)
  | s => some ([], s)

def wholeDigits : Scan (List Char) :=
  digits (fun c => c.isDigit && c != '0') Char.isDigit <|> exactly (· == '0') 1

def exponentPart : Scan (List Char) := do
  let _ ← one fun c => c = 'e' || c = 'E'
  let s ← sign
  return 'e' :: s ++ (← digits Char.isDigit Char.isDigit)

def fractionPart : Scan (List Char) := do
  char '.'
  return '.' :: (← digits Char.isDigit Char.isDigit)

def namedFloat : Scan Double := do
  let s ← sign
  let x ← (literal ['i', 'n', 'f'] *> pure (Double.infinite false)) <|>
    (literal ['n', 'a', 'n'] *> pure Double.nan)
  return if s = ['-'] then x.neg else x

def writtenFloat : Scan Double := do
  let s ← sign
  let whole ← wholeDigits
  let rest ← exponentPart <|> (do
    let fraction ← fractionPart
    return fraction ++ (← exponentPart <|> pure []))
  let x ← StateT.lift (Literal.double? (s ++ whole ++ rest))
  if x = .infinite false then failure
  return x

def basedInteger (letter : Char) (base : Nat) : Scan Int := do
  literal ['0', letter]
  let isDigit := fun c => (Literal.hexDigit? c).any (· < base)
  let n := Literal.basedValue base (← digits isDigit isDigit)
  if n ≤ 9223372036854775807 then return n else failure

def decimalInteger : Scan Int := do
  let s ← sign
  StateT.lift (Literal.int64? (s ++ (← wholeDigits)))

def integer : Scan Int :=
  basedInteger 'x' 16 <|> basedInteger 'o' 8 <|> basedInteger 'b' 2 <|> decimalInteger

end CardDesk.Toml
