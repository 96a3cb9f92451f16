import CardDesk.Store.Error

namespace CardDesk.Sql

structure Address where
  scheme : String
  user : String
  host : String
  port : Option Nat
  rest : String
  deriving DecidableEq, Repr

namespace Address

def isSchemeChar (c : Char) : Bool :=
  c.isAlphanum || c == '+' || c == '-' || c == '.'

def readScheme : List Char → Option (List Char × List Char)
  | [] => none
  | c :: r =>
    if c.isAlpha then
      match r.dropWhile isSchemeChar with
      | ':' :: t => some ((c :: r.takeWhile isSchemeChar).map Char.toLower, t)
      | _ => none
    else none

def isSpecial (scheme : String) : Bool :=
  ["http", "https", "ws", "wss", "ftp"].contains scheme

def endsAuthority (special : Bool) (c : Char) : Bool :=
  c == '/' || c == '?' || c == '#' || (special && c == '\\')

def isGroup (cs : List Char) : Bool :=
  1 ≤ cs.length && cs.length ≤ 4 &&
    cs.all fun c => c.isDigit || ('a' ≤ c && c ≤ 'f') || ('A' ≤ c && c ≤ 'F')

def isOctet (cs : List Char) : Bool :=
  cs != [] && cs.all Char.isDigit && (cs.length == 1 || cs.head? != some '0') &&
    (String.ofList cs).toNat?.getD 256 < 256

def splitChars (sep : Char) : List Char → List (List Char)
  | [] => [[]]
  | c :: r =>
    match splitChars sep r with
    | [] => [[c]]
    | g :: gs => if c = sep then [] :: g :: gs else (c :: g) :: gs

def groupCount? (cs : List Char) : Option Nat :=
  if cs = [] then some 0
  else
    let groups := splitChars ':' cs
    match groups.reverse with
    | [] => none
    | last :: before =>
      if !before.all isGroup then none
      else if isGroup last then some groups.length
      else
        let octets := splitChars '.' last
        if octets.length = 4 ∧ octets.all isOctet then some (groups.length + 1) else none

def splitDouble (seen : List Char) : List Char → Option (List Char × List Char)
  | ':' :: ':' :: r => some (seen.reverse, r)
  | c :: r => splitDouble (c :: seen) r
  | [] => none

def isIpv6 (cs : List Char) : Bool :=
  match splitDouble [] cs with
  | none => groupCount? cs == some 8
  | some (a, b) =>
    match a.contains '.', groupCount? a, groupCount? b with
    | false, some m, some n => m + n < 8
    | _, _, _ => false

def isForbidden (c : Char) : Bool :=
  ['\x00', '\t', '\n', '\r', ' ', '#', '/', ':', '<', '>', '?', '@', '[', '\\', ']', '^',
    '|'].contains c

def spanHost (special inside : Bool) (host : List Char) : List Char → List Char × List Char
  | [] => (host.reverse, [])
  | c :: r =>
    if (c = ':' ∧ !inside) ∨ endsAuthority special c then (host.reverse, c :: r)
    else
      spanHost special (if c = '[' then true else if c = ']' then false else inside) (c :: host) r

def checkHost (special : Bool) (host : List Char) : Except AddressError Unit :=
  match host with
  | [] => if special then .error .emptyHost else .ok ()
  | '[' :: r =>
    if r.getLast? = some ']' ∧ isIpv6 r.dropLast then .ok () else .error .badIpv6
  | _ =>
    if host.any fun c =>
        isForbidden c || (special && (c == '%' || c.toNat < 0x20 || c.toNat == 0x7F))
    then .error .badDomainCharacter
    else .ok ()

def readPort (special : Bool) :
    List Char → Option Nat → Except AddressError (Option Nat × List Char)
  | [], port => .ok (port, [])
  | c :: r, port =>
    if c.isDigit then
      let n := port.getD 0 * 10 + (c.toNat - 48)
      if 65535 < n then .error .badPort else readPort special r (some n)
    else if endsAuthority special c || c == '\\' then .ok (port, c :: r)
    else .error .badPort

def splitUser (special : Bool) (cs : List Char) : Option (List Char × List Char) :=
  let authority := cs.takeWhile fun c => !endsAuthority special c
  if authority.contains '@' then
    let host := (authority.reverse.takeWhile (· != '@')).length
    let user := authority.length - host - 1
    some (cs.take user, cs.drop (user + 1))
  else none

def atPathStart (special : Bool) : List Char → Bool
  | [] => false
  | c :: _ => endsAuthority special c

def readAuthority (scheme : String) (cs : List Char) : Except AddressError Address := do
  let special := isSpecial scheme
  let (user, rest) := (splitUser special cs).getD ([], cs)
  if (splitUser special cs).any fun p => p.1 = [] ∧ atPathStart special p.2 then
    throw .emptyHost
  let (host, rest) := spanHost special false [] rest
  checkHost special host
  match rest with
  | ':' :: r =>
    if host = [] then throw .emptyHost
    let (port, path) ← readPort special r none
    return ⟨scheme, String.ofList user, String.ofList host, port, String.ofList path⟩
  | _ => return ⟨scheme, String.ofList user, String.ofList host, none, String.ofList rest⟩

def isControlOrSpace (c : Char) : Bool :=
  c.toNat ≤ 0x20

def clean (s : String) : List Char :=
  let cs := s.toList.dropWhile isControlOrSpace
  let cs := (cs.reverse.dropWhile isControlOrSpace).reverse
  cs.filter fun c => c != '\t' && c != '\n' && c != '\r'

def parse (s : String) : Except AddressError Address :=
  match readScheme (clean s) with
  | none => .error .noScheme
  | some (scheme, rest) =>
    let scheme := String.ofList scheme
    if isSpecial scheme then
      readAuthority scheme (rest.dropWhile fun c => c == '/' || c == '\\')
    else match rest with
      | '/' :: '/' :: r => readAuthority scheme r
      | r => .ok ⟨scheme, "", "", none, String.ofList r⟩

end Address

end CardDesk.Sql
