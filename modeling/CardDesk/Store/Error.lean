import CardDesk.Card
import CardDesk.Text.Printable

namespace CardDesk

inductive NumberError where
  | empty
  | invalidDigit
  | tooLarge
  deriving DecidableEq, Repr

def NumberError.message : NumberError → String
  | empty => "cannot parse integer from empty string"
  | invalidDigit => "invalid digit found in string"
  | tooLarge => "number too large to fit in target type"

inductive AddressError where
  | noScheme
  | emptyHost
  | badDomain
  | badDomainCharacter
  | badPort
  | badIpv4
  | badIpv6
  | noAuthority
  | invalidText (index : Nat) (length : Option Nat)
  | unknownMode (mode : String)
  | badNumber (e : NumberError)
  | badIp
  deriving DecidableEq, Repr

def unknownModeMessage (mode : String) : String :=
  "unknown value " ++ Text.quoted mode ++ " for `ssl_mode`"

def AddressError.message : AddressError → String
  | noScheme => "relative URL without a base"
  | emptyHost => "empty host"
  | badDomain => "invalid international domain name"
  | badDomainCharacter => "invalid domain character"
  | badPort => "invalid port number"
  | badIpv4 => "invalid IPv4 address"
  | badIpv6 => "invalid IPv6 address"
  | noAuthority => "relative URL with a cannot-be-a-base base"
  | invalidText index none => "incomplete utf-8 byte sequence from index " ++ toString index
  | invalidText index (some length) =>
    "invalid utf-8 sequence of " ++ toString length ++ " bytes from index " ++ toString index
  | unknownMode mode => "error with configuration: " ++ unknownModeMessage mode
  | badNumber e => e.message
  | badIp => "invalid IP address syntax"

inductive SqlType where
  | int2
  | int4
  | int8
  | bool
  | bytea
  | text
  | varchar
  | bpchar
  deriving DecidableEq, Repr

def SqlType.name : SqlType → String
  | int2 => "INT2"
  | int4 => "INT4"
  | int8 => "INT8"
  | bool => "BOOL"
  | bytea => "BYTEA"
  | text => "TEXT"
  | varchar => "VARCHAR"
  | bpchar => "CHAR"

inductive ColumnKind where
  | integer
  | text
  deriving DecidableEq, Repr

abbrev ColumnKind.Value : ColumnKind → Type
  | integer => Int32
  | text => String

def ColumnKind.describe : ColumnKind → String
  | integer => "Rust type `i32` (as SQL type `INT4`)"
  | text => "Rust type `alloc::string::String` (as SQL type `TEXT`)"

inductive ColumnRef where
  | named (name : String)
  | numbered (index : Nat)
  deriving DecidableEq, Repr

def ColumnRef.describe : ColumnRef → String
  | named name => Text.quoted name
  | numbered index => toString index

inductive ColumnError where
  | unexpectedNull
  | mismatchedType (kind : ColumnKind) (type : SqlType)
  deriving DecidableEq, Repr

def ColumnError.message : ColumnError → String
  | unexpectedNull => "unexpected null; try decoding as an `Option`"
  | mismatchedType kind type =>
    "mismatched types; " ++ kind.describe ++ " is not compatible with SQL type `" ++ type.name ++
      "`"

inductive NetworkError where
  | unreachable
  deriving DecidableEq, Repr

def NetworkError.message : NetworkError → String
  | unreachable => "Network is unreachable (os error 101)"

structure ServerError where
  code : String
  message : String
  deriving DecidableEq, Repr

inductive MigrationError where
  | refused (e : ServerError)
  | versionMissing (version : Int)
  | versionModified (version : Int)
  | dirty (version : Int)
  deriving DecidableEq, Repr

def MigrationError.message : MigrationError → String
  | refused e => "while executing migrations: error returned from database: " ++ e.message
  | versionMissing version =>
    "migration " ++ toString version ++
      " was previously applied but is missing in the resolved migrations"
  | versionModified version =>
    "migration " ++ toString version ++ " was previously applied but has been modified"
  | dirty version =>
    "migration " ++ toString version ++
      " is partially applied; fix and remove row from `_sqlx_migrations` table"

inductive DatabaseError where
  | poolTimedOut
  | poolClosed
  | rowNotFound
  | unexpectedData (text : String)
  | server (e : ServerError)
  | columnNotFound (name : String)
  | columnOutOfBounds (index length : Nat)
  | columnUnreadable (column : ColumnRef) (reason : ColumnError)
  | network (e : NetworkError)
  | address (e : AddressError)
  | migration (e : MigrationError)
  deriving DecidableEq, Repr

def DatabaseError.message : DatabaseError → String
  | poolTimedOut => "pool timed out while waiting for an open connection"
  | poolClosed => "attempted to acquire a connection on a closed pool"
  | rowNotFound => "no rows returned by a query that expected to return at least one row"
  | unexpectedData text => "encountered unexpected or invalid data: " ++ text
  | server e => "error returned from database: " ++ e.message
  | columnNotFound name => "no column found for name: " ++ name
  | columnOutOfBounds index length =>
    "column index out of bounds: the len is " ++ toString length ++ ", but the index is " ++
      toString index
  | columnUnreadable column reason =>
    "error occurred while decoding column " ++ column.describe ++ ": " ++ reason.message
  | network e => "error communicating with database: " ++ e.message
  | address e => "error with configuration: " ++ e.message
  | migration e => e.message

def DatabaseError.reasons : DatabaseError → List String
  | server e => [e.message]
  | columnUnreadable _ reason => [reason.message]
  | network e => [e.message]
  | address (.unknownMode mode) =>
    [(AddressError.unknownMode mode).message, unknownModeMessage mode]
  | address e => [e.message]
  | migration (.refused e) => [(MigrationError.refused e).message,
      "error returned from database: " ++ e.message, e.message]
  | migration e => [e.message]
  | _ => []

inductive StoreError where
  | database (e : DatabaseError)
  | duplicate
  | corrupt (text : String)
  deriving DecidableEq, Repr

def StoreError.message : StoreError → String
  | database e => "Database error: " ++ e.message
  | duplicate => "Duplicate card"
  | corrupt text => "Corrupt card row: " ++ text

def StoreError.chain : StoreError → List String
  | database e => (database e).message :: e.message :: e.reasons
  | e => [e.message]

inductive Refusal where
  | alreadyExists
  | notFound (id : Int32)
  | unknownLabel (label : String)
  | idRequired
  | emptyFields (fields : List Application.Field)
  | storeFailed (e : StoreError)
  deriving DecidableEq, Repr

def Application.Field.complaint : Application.Field → String
  | name => "The card holder's name must not be empty."
  | department => "The department must not be empty."

def Refusal.message : Refusal → String
  | alreadyExists => "The card already exists!"
  | notFound id => "Card " ++ toString id.toInt ++ " does not exist."
  | unknownLabel label =>
    "Unknown card type \"" ++ label ++ "\", expected 教师, 学生, T or S."
  | idRequired => "A card id is required to remove a card."
  | emptyFields fields => " ".intercalate (fields.map Application.Field.complaint)
  | storeFailed _ => "Failed to access the card store."

namespace Application

def check (a : Application) : Except Refusal Unit :=
  match a.emptyFields with
  | [] => .ok ()
  | fields => .error (.emptyFields fields)

theorem check_eq_ok_iff {a : Application} :
    a.check = .ok () ↔ a.name ≠ "" ∧ a.department ≠ "" := by
  by_cases hn : a.name = "" <;> by_cases hd : a.department = "" <;>
    simp [check, emptyFields, hn, hd]

end Application

end CardDesk
