import CardDesk.Number.Double

namespace CardDesk.Double

def searchGrid (low mid high : Nat) (q : Int) (closed : Bool) : Nat → Int → Nat × Int
  | 0, p => (mid, p)
  | fuel + 1, p =>
    let a := (if 0 ≤ q then Nat.pow 2 q.toNat else 1) *
      (if p < 0 then Nat.pow 10 (-p).toNat else 1)
    let b := (if 0 ≤ p then Nat.pow 10 p.toNat else 1) *
      (if q < 0 then Nat.pow 2 (-q).toNat else 1) * 4
    let inside (d : Nat) : Bool :=
      if closed then low * a ≤ d * b && d * b ≤ high * a else low * a < d * b && d * b < high * a
    let below := mid * a / b
    let above := below + 1
    match below != 0 && inside below, inside above with
    | true, true =>
      if mid * a - below * b ≤ above * b - mid * a then (below, p) else (above, p)
    | true, false => (below, p)
    | false, true => (above, p)
    | false, false => searchGrid low mid high q closed fuel (p - 1)

def shortest (m : Nat) (q : Int) : Nat × Int :=
  let low := if m = Nat.pow 2 52 ∧ -1074 < q then 4 * m - 1 else 4 * m - 2
  let top := ((m.log2 : Int) + q) * 30103 / 100000 + 1
  searchGrid low (4 * m) (4 * m + 2) q (m % 2 == 0) 25 top

structure Layout where
  positional : Option (Int × Int)
  fraction : Bool
  deriving DecidableEq, Repr

def zeros (n : Nat) : String :=
  String.ofList (List.replicate n '0')

def writeMagnitude (layout : Layout) (m : Nat) (q : Int) : String :=
  if m = 0 then (if layout.fraction then "0.0" else "0")
  else
    let (digits, last) := shortest m q
    let text := Nat.repr digits
    let point : Int := text.length + last
    let exponent := point - 1
    let inPlaces := match layout.positional with
      | none => true
      | some (low, high) => low ≤ exponent && exponent ≤ high
    if inPlaces then
      if point ≤ 0 then "0." ++ zeros (-point).toNat ++ text
      else if point < text.length then
        (text.take point.toNat).copy ++ "." ++ (text.drop point.toNat).copy
      else text ++ zeros (point - text.length).toNat ++ (if layout.fraction then ".0" else "")
    else
      let fraction := (text.drop 1).copy
      (text.take 1).copy ++ (if fraction = "" then "" else "." ++ fraction) ++ "e" ++
        (if exponent < 0 then "-" else "+") ++ Nat.repr exponent.natAbs

def write (layout : Layout) : Double → String
  | nan => "NaN"
  | infinite negative => (if negative then "-" else "") ++ "inf"
  | finite negative m q => (if negative then "-" else "") ++ writeMagnitude layout m q

end CardDesk.Double
