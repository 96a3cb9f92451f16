import CardDesk.Number.Double

namespace CardDesk.Literal

def digitsValue (base : Nat) (digit : Char → Nat) (cs : List Char) : Nat :=
  cs.foldl (fun n c => n * base + digit c) 0

def decimalDigit (c : Char) : Nat :=
  c.toNat - 48

def hexDigit? (c : Char) : Option Nat :=
  let n := c.toNat
  if c.isDigit then some (n - 48)
  else if 65 ≤ n ∧ n ≤ 70 then some (n - 55)
  else if 97 ≤ n ∧ n ≤ 102 then some (n - 87)
  else none

def isHexDigit (c : Char) : Bool :=
  (hexDigit? c).isSome

def basedValue (base : Nat) (cs : List Char) : Nat :=
  digitsValue base (fun c => (hexDigit? c).getD 0) cs

def based? (base : Nat) (cs : List Char) : Option Nat :=
  if cs.isEmpty || !cs.all (fun c => (hexDigit? c).any (· < base)) then none
  else some (basedValue base cs)

def natural? (cs : List Char) : Option Nat :=
  if cs.isEmpty || !cs.all Char.isDigit then none else some (digitsValue 10 decimalDigit cs)

def splitSign : List Char → Bool × List Char
  | '-' :: r => (true, r)
  | '+' :: r => (false, r)
  | r => (false, r)

def integer? (cs : List Char) : Option Int :=
  let (minus, r) := splitSign cs
  (natural? r).map fun n => if minus then -n else n

def int64? (cs : List Char) : Option Int :=
  (integer? cs).filter fun n => -9223372036854775808 ≤ n && n ≤ 9223372036854775807

def uint64? (cs : List Char) : Option Nat :=
  (natural? (if cs.head? = some '+' then cs.tail else cs)).filter (· ≤ 18446744073709551615)

def exponent? : List Char → Option Int
  | [] => some 0
  | c :: r => if c = 'e' || c = 'E' then integer? r else none

def magnitude? (negative : Bool) (cs : List Char) : Option Double :=
  let whole := cs.takeWhile Char.isDigit
  let r := cs.dropWhile Char.isDigit
  let (fraction, r) := match r with
    | '.' :: r => (r.takeWhile Char.isDigit, r.dropWhile Char.isDigit)
    | r => ([], r)
  if whole.isEmpty && fraction.isEmpty then none
  else (exponent? r).map fun e =>
    .ofDecimal negative (digitsValue 10 decimalDigit (whole ++ fraction)) (e - fraction.length)

def named? (negative : Bool) (cs : List Char) : Option Double :=
  match String.ofList (cs.map Char.toLower) with
  | "nan" => some .nan
  | "inf" => some (.infinite negative)
  | "infinity" => some (.infinite negative)
  | _ => none

def double? (cs : List Char) : Option Double :=
  let (negative, r) := splitSign cs
  named? negative r <|> magnitude? negative r

end CardDesk.Literal
