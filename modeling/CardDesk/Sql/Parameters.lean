import CardDesk.Boot.Address
import CardDesk.Sql.Address

/-!
What an address of a database says about the connection. Its parts are written with percent signs
and have to be UTF-8; of the parameters behind the path some must have a value of a certain form,
and all others are let pass.
-/

namespace CardDesk.Sql

def percentDecode : List Char → List UInt8
  | '%' :: a :: b :: r =>
    if Literal.isHexDigit a && Literal.isHexDigit b then
      UInt8.ofNat (Literal.basedValue 16 [a, b]) :: percentDecode r
    else 0x25 :: percentDecode (a :: b :: r)
  | c :: r => String.utf8EncodeChar c ++ percentDecode r
  | [] => []

namespace Utf8

inductive Piece where
  | character (bytes : List UInt8)
  | broken (length : Nat)
  | cutOff (length : Nat)
  deriving DecidableEq, Repr

def Piece.length : Piece → Nat
  | character bytes => bytes.length
  | broken length => length
  | cutOff length => length

def follow? (b : UInt8) : Option (Nat × UInt8 × UInt8) :=
  if b < 0x80 then some (0, 0x80, 0xBF)
  else if b < 0xC2 then none
  else if b < 0xE0 then some (1, 0x80, 0xBF)
  else if b = 0xE0 then some (2, 0xA0, 0xBF)
  else if b = 0xED then some (2, 0x80, 0x9F)
  else if b < 0xF0 then some (2, 0x80, 0xBF)
  else if b = 0xF0 then some (3, 0x90, 0xBF)
  else if b < 0xF4 then some (3, 0x80, 0xBF)
  else if b = 0xF4 then some (3, 0x80, 0x8F)
  else none

def countFollowing (low high : UInt8) : Nat → List UInt8 → Nat
  | 0, _ => 0
  | _ + 1, [] => 0
  | n + 1, b :: r => if low ≤ b ∧ b ≤ high then countFollowing 0x80 0xBF n r + 1 else 0

def front (b : UInt8) (r : List UInt8) : Piece :=
  match follow? b with
  | none => .broken 1
  | some (n, low, high) =>
    let m := countFollowing low high n r
    if m = n then .character (b :: r.take n)
    else if r.length = m then .cutOff (m + 1)
    else .broken (m + 1)

/-- The characters in a row of bytes and what stands between them, behind as many bytes as are
given. -/
def pieces : Nat → List UInt8 → List Piece
  | _, [] => []
  | n + 1, _ :: r => pieces n r
  | 0, b :: r => front b r :: pieces ((front b r).length - 1) r

def check (index : Nat) : List Piece → Except AddressError Unit
  | [] => .ok ()
  | .character bytes :: ps => check (index + bytes.length) ps
  | .broken length :: _ => .error (.invalidText index (some length))
  | .cutOff _ :: _ => .error (.invalidText index none)

def leadBits (b : UInt8) : Nat :=
  let n := b.toNat
  if n < 0x80 then n else if n < 0xE0 then n % 32 else if n < 0xF0 then n % 16 else n % 8

def Piece.char : Piece → Char
  | character (b :: r) => Char.ofNat (r.foldl (fun n c => n * 64 + c.toNat % 64) (leadBits b))
  | _ => '\uFFFD'

end Utf8

def formText (cs : List Char) : String :=
  let bytes := percentDecode (cs.map fun c => if c = '+' then ' ' else c)
  String.ofList ((Utf8.pieces 0 bytes).map Utf8.Piece.char)

structure Parameters.Pair where
  name : String
  value : String
  deriving DecidableEq, Repr

namespace Parameters

def pairs (query : List Char) : List Pair :=
  ((Address.splitChars '&' query).filter (· ≠ [])).map fun cs =>
    ⟨formText (cs.takeWhile (· ≠ '=')), formText (cs.dropWhile (· ≠ '=')).tail⟩

def readDigits (limit n : Nat) : List Char → Except NumberError Nat
  | [] => .ok n
  | c :: r =>
    if !c.isDigit then .error .invalidDigit
    else
      let m := n * 10 + Literal.decimalDigit c
      if limit ≤ m then .error .tooLarge else readDigits limit m r

def readNumber (limit : Nat) : List Char → Except NumberError Nat
  | [] => .error .empty
  | ['+'] => .error .invalidDigit
  | '+' :: r => readDigits limit 0 r
  | cs => readDigits limit 0 cs

def modes : List String :=
  ["disable", "allow", "prefer", "require", "verify-ca", "verify-full"]

def checkNumber (limit : Nat) (value : String) : Except AddressError Unit :=
  match readNumber limit value.toList with
  | .error e => .error (.badNumber e)
  | .ok _ => .ok ()

def Pair.check (p : Pair) : Except AddressError Unit :=
  match p.name with
  | "sslmode" | "ssl-mode" =>
    if String.ofList (p.value.toList.map Char.toLower) ∈ modes then .ok ()
    else .error (.unknownMode p.value)
  | "statement-cache-capacity" => checkNumber 18446744073709551616 p.value
  | "hostaddr" => if (Boot.IpAddress.read? p.value).isSome then .ok () else .error .badIp
  | "port" => checkNumber 65536 p.value
  | _ => .ok ()

end Parameters

namespace Address

def checkText (cs : List Char) : Except AddressError Unit :=
  Utf8.check 0 (Utf8.pieces 0 (percentDecode cs))

def userName (a : Address) : List Char :=
  a.user.toList.takeWhile (· ≠ ':')

def password (a : Address) : List Char :=
  (a.user.toList.dropWhile (· ≠ ':')).tail

def isStay (step : String) : Bool :=
  [".", "%2e"].contains step

def isBack (step : String) : Bool :=
  ["..", "%2e.", ".%2e", "%2e%2e"].contains step

def walk (seen : List (List Char)) : List (List Char) → List (List Char)
  | [] => seen.reverse
  | step :: rest =>
    let plain := String.ofList (step.map Char.toLower)
    if isBack plain then walk seen.tail rest
    else if isStay plain then walk seen rest
    else walk (step :: seen) rest

def endsPath (c : Char) : Bool :=
  c == '?' || c == '#'

def database (a : Address) : List Char :=
  let path := a.rest.toList.takeWhile fun c => !endsPath c
  match path.map fun c => if isSpecial a.scheme && c == '\\' then '/' else c with
  | '/' :: r => (['/'].intercalate (walk [] (splitChars '/' r))).dropWhile (· = '/')
  | r => r

def query (a : Address) : List Char :=
  match a.rest.toList.dropWhile fun c => !endsPath c with
  | '?' :: r => r.takeWhile (· ≠ '#')
  | _ => []

/-- Checks the parts of an address in their order. A host is read as a text only if it begins with a
slash and so is the path of a socket. -/
def check (a : Address) : Except AddressError Unit := do
  if (percentDecode a.host.toList).head? = some 0x2F then checkText a.host.toList
  checkText a.userName
  checkText a.password
  checkText a.database
  (Parameters.pairs a.query).forM Parameters.Pair.check

def read (s : String) : Except AddressError Address := do
  let a ← parse s
  a.check
  return a

end Address

example : Address.read "postgres://me:s%C3%A9same@db/my%20cards?port=%2B5432&sslmode=b%6Fgus" =
    .error (.unknownMode "bogus") := by
  rfl

example : Address.read "postgres://me@db/cards%E2%28?sslmode=Verify-Full" =
    .error (.invalidText 5 (some 1)) := by
  rfl

end CardDesk.Sql
