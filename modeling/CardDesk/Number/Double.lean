/-!
Numbers of double precision as exact values `m * 2 ^ q`. Every operation rounds an exact quotient
to the nearest such number, a tie to the even mantissa, so one function decides all rounding.
-/

namespace CardDesk

/-- A finite number has `m < 2 ^ 53` and `-1074 ≤ q`, and zero is `0 * 2 ^ -1074`. -/
inductive Double where
  | nan
  | infinite (negative : Bool)
  | finite (negative : Bool) (m : Nat) (q : Int)
  deriving DecidableEq, Repr

namespace Double

def scaled (num den : Nat) (q : Int) : Nat × Nat :=
  if 0 ≤ q then (num, den * Nat.pow 2 q.toNat) else (num * Nat.pow 2 (-q).toNat, den)

def nearestEven (num den : Nat) : Nat :=
  let floor := num / den
  let rest := 2 * (num % den)
  if rest < den then floor
  else if den < rest then floor + 1
  else if floor % 2 = 0 then floor else floor + 1

def gridExponent (num den : Nat) : Int :=
  let q : Int := (num.log2 : Int) - den.log2 - 52
  let (a, b) := scaled num den q
  max (if a < Nat.pow 2 52 * b then q - 1 else q) (-1074)

def ofQuotient (negative : Bool) (num den : Nat) : Double :=
  if num = 0 then finite negative 0 (-1074)
  else
    let q := gridExponent num den
    let (a, b) := scaled num den q
    let m := nearestEven a b
    let (m, q) := if m = Nat.pow 2 53 then (Nat.pow 2 52, q + 1) else (m, q)
    if 971 < q then infinite negative else finite negative m q

def ofNat (n : Nat) : Double :=
  ofQuotient false n 1

def ofDecimal (negative : Bool) (m : Nat) (e : Int) : Double :=
  let top := (Nat.toDigits 10 m).length + e
  if m = 0 ∨ top < -400 then finite negative 0 (-1074)
  else if 400 < top then infinite negative
  else if 0 ≤ e then ofQuotient negative (m * Nat.pow 10 e.toNat) 1
  else ofQuotient negative m (Nat.pow 10 (-e).toNat)

def isZero : Double → Bool
  | finite _ m _ => m == 0
  | _ => false

def isInfinite : Double → Bool
  | infinite _ => true
  | _ => false

def neg : Double → Double
  | nan => nan
  | infinite negative => infinite !negative
  | finite negative m q => finite (!negative) m q

def magnitude (m : Nat) (q : Int) : Nat × Nat :=
  if 0 ≤ q then (m * Nat.pow 2 q.toNat, 1) else (m, Nat.pow 2 (-q).toNat)

def mul : Double → Double → Double
  | finite s m q, finite t n r =>
    let (a, b) := magnitude m q
    let (c, d) := magnitude n r
    ofQuotient (s != t) (a * c) (b * d)
  | infinite s, finite t _ _ => infinite (s != t)
  | _, _ => nan

def div : Double → Double → Double
  | finite s m q, finite t n r =>
    let (a, b) := magnitude m q
    let (c, d) := magnitude n r
    ofQuotient (s != t) (a * d) (b * c)
  | infinite s, finite t _ _ => infinite (s != t)
  | _, _ => nan

def tenPow (n : Nat) : Double :=
  ofQuotient false (Nat.pow 10 n) 1

def roundHalfAway (m : Nat) (q : Int) : Nat :=
  let (a, b) := magnitude m q
  (2 * a + b) / (2 * b)

end Double

end CardDesk
