import CardDesk.Number.Shortest
import CardDesk.Text.Printable

namespace CardDesk.Json

abbrev Bytes := List UInt8

inductive Found where
  | null
  | bool (b : Bool)
  | integer (n : Int)
  | float (x : Double)
  | text (s : String)
  | list
  | object
  deriving DecidableEq, Repr

inductive Mismatch where
  | missingField (name : String)
  | duplicateField (name : String)
  | unknownField (name : String) (known : List String)
  | unknownVariant (name : String) (known : List String)
  | wrongLength (length : Nat) (expected : String)
  | wrongType (found : Found) (expected : String)
  | wrongValue (found : Found) (expected : String)
  deriving DecidableEq, Repr

inductive Cause where
  | eofInValue
  | eofInList
  | eofInObject
  | eofInString
  | expectedColon
  | expectedListCommaOrEnd
  | expectedObjectCommaOrEnd
  | expectedIdent
  | expectedValue
  | invalidEscape
  | invalidNumber
  | numberOutOfRange
  | invalidCodePoint
  | controlCharacter
  | keyNotString
  | loneSurrogate
  | unexpectedEndOfHexEscape
  | trailingComma
  | trailingCharacters
  | mismatch (m : Mismatch)
  deriving DecidableEq, Repr

inductive Kind where
  | syntactic
  | mismatch
  | eof
  deriving DecidableEq, Repr

def Cause.kind : Cause → Kind
  | eofInValue | eofInList | eofInObject | eofInString => .eof
  | mismatch _ => .mismatch
  | _ => .syntactic

def floatLayout : Double.Layout :=
  ⟨some (-5, 15), true⟩

def Found.describe : Found → String
  | null => "null"
  | bool b => "boolean `" ++ (if b then "true" else "false") ++ "`"
  | integer n => "integer `" ++ toString n ++ "`"
  | float x => "floating point `" ++ x.write floatLayout ++ "`"
  | text s => "string " ++ Text.quoted s
  | list => "sequence"
  | object => "map"

def alternatives : List String → String
  | [a] => "`" ++ a ++ "`"
  | [a, b] => "`" ++ a ++ "` or `" ++ b ++ "`"
  | names => "one of " ++ ", ".intercalate (names.map fun a => "`" ++ a ++ "`")

def Mismatch.message : Mismatch → String
  | missingField name => "missing field `" ++ name ++ "`"
  | duplicateField name => "duplicate field `" ++ name ++ "`"
  | unknownField name known =>
    "unknown field `" ++ name ++ "`, expected " ++ alternatives known
  | unknownVariant name known =>
    "unknown variant `" ++ name ++ "`, expected " ++ alternatives known
  | wrongLength length expected => "invalid length " ++ toString length ++ ", expected " ++ expected
  | wrongType found expected => "invalid type: " ++ found.describe ++ ", expected " ++ expected
  | wrongValue found expected => "invalid value: " ++ found.describe ++ ", expected " ++ expected

def Cause.message : Cause → String
  | eofInValue => "EOF while parsing a value"
  | eofInList => "EOF while parsing a list"
  | eofInObject => "EOF while parsing an object"
  | eofInString => "EOF while parsing a string"
  | expectedColon => "expected `:`"
  | expectedListCommaOrEnd => "expected `,` or `]`"
  | expectedObjectCommaOrEnd => "expected `,` or `\x7d`"
  | expectedIdent => "expected ident"
  | expectedValue => "expected value"
  | invalidEscape => "invalid escape"
  | invalidNumber => "invalid number"
  | numberOutOfRange => "number out of range"
  | invalidCodePoint => "invalid unicode code point"
  | controlCharacter => "control character (\\u0000-\\u001F) found while parsing a string"
  | keyNotString => "key must be a string"
  | loneSurrogate => "lone leading surrogate in hex escape"
  | unexpectedEndOfHexEscape => "unexpected end of hex escape"
  | trailingComma => "trailing comma"
  | trailingCharacters => "trailing characters"
  | mismatch m => m.message

structure Position where
  line : Nat
  column : Nat
  deriving DecidableEq, Repr

def Position.after : Bytes → Position → Position
  | [], p => p
  | b :: r, p => after r (if b = 0x0A then ⟨p.line + 1, 0⟩ else ⟨p.line, p.column + 1⟩)

structure Fault where
  cause : Cause
  rest : Bytes
  deriving DecidableEq, Repr

def Fault.position (f : Fault) (input : Bytes) : Position :=
  Position.after (input.take (input.length - f.rest.length)) ⟨1, 0⟩

structure Complaint where
  cause : Cause
  position : Position
  deriving DecidableEq, Repr

def Fault.complaint (f : Fault) (input : Bytes) : Complaint :=
  ⟨f.cause, f.position input⟩

def Complaint.message (c : Complaint) : String :=
  c.cause.message ++ " at line " ++ toString c.position.line ++ " column " ++
    toString c.position.column

end CardDesk.Json
