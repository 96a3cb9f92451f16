import CardDesk.Document.Scan

namespace CardDesk.Boot

open Scan

inductive IpAddress where
  | v4 (bytes : List UInt8)
  | v6 (groups : List UInt16)
  deriving DecidableEq, Repr

structure SocketAddress where
  ip : IpAddress
  port : UInt16
  deriving DecidableEq, Repr

namespace IpAddress

def readByte : Scan UInt8 := do
  let digits ← some1 Char.isDigit
  let n := Literal.digitsValue 10 Literal.decimalDigit digits
  if 3 < digits.length ∨ 255 < n then failure
  if digits.head? = some '0' ∧ 1 < digits.length then failure
  return UInt8.ofNat n

def readV4 : Scan (List UInt8) := do
  let a ← readByte
  char '.'
  let b ← readByte
  char '.'
  let c ← readByte
  char '.'
  let d ← readByte
  return [a, b, c, d]

def readGroup : Scan UInt16 := do
  let digits ← some1 Literal.isHexDigit
  if 4 < digits.length then failure
  return UInt16.ofNat (Literal.basedValue 16 digits)

def groupsOf : List UInt8 → List UInt16
  | a :: b :: r => UInt16.ofNat (a.toNat * 256 + b.toNat) :: groupsOf r
  | _ => []

def readGroups : Nat → Bool → Scan (List UInt16 × Bool)
  | 0, _ => pure ([], false)
  | room + 1, first =>
    (do
      if room = 0 then failure
      if !first then char ':'
      return (groupsOf (← readV4), true)) <|>
    (do
      if !first then char ':'
      let g ← readGroup
      let (gs, short) ← readGroups room false
      return (g :: gs, short)) <|>
    pure ([], false)

def readV6 : Scan (List UInt16) := do
  let (head, short) ← readGroups 8 true
  if head.length = 8 then return head
  if short then failure
  literal [':', ':']
  let (tail, _) ← readGroups (7 - head.length) true
  return head ++ List.replicate (8 - head.length - tail.length) 0 ++ tail

def read? (s : String) : Option IpAddress :=
  all ((do return v4 (← readV4)) <|> (do return v6 (← readV6))) s.toList

def writeV4 (bytes : List UInt8) : String :=
  ".".intercalate (bytes.map fun b => toString b.toNat)

def writeGroup (g : UInt16) : String :=
  String.ofList (Nat.toDigits 16 g.toNat)

def writeGroups (gs : List UInt16) : String :=
  ":".intercalate (gs.map writeGroup)

def longestRun (gs : List UInt16) : Nat × Nat :=
  let run (i : Nat) : Nat := ((gs.drop i).takeWhile (· == 0)).length
  (List.range gs.length).foldl (fun best i => if best.2 < run i then (i, run i) else best) (0, 0)

def writeV6 (gs : List UInt16) : String :=
  match gs with
  | [0, 0, 0, 0, 0, 0xFFFF, a, b] =>
    "::ffff:" ++
      writeV4 ([a, b].flatMap fun g => [UInt8.ofNat (g.toNat / 256), UInt8.ofNat g.toNat])
  | gs =>
    let (start, length) := longestRun gs
    if 1 < length then
      writeGroups (gs.take start) ++ "::" ++ writeGroups (gs.drop (start + length))
    else writeGroups gs

end IpAddress

def SocketAddress.write (a : SocketAddress) : String :=
  let port := toString a.port.toNat
  match a.ip with
  | .v4 bytes => IpAddress.writeV4 bytes ++ ":" ++ port
  | .v6 groups => "[" ++ IpAddress.writeV6 groups ++ "]:" ++ port

end CardDesk.Boot
