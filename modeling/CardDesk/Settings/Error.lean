import CardDesk.Number.Shortest
import CardDesk.Settings.Tree
import CardDesk.Text.Printable

namespace CardDesk.Settings

inductive Found where
  | nothing
  | integer (n : Int)
  | natural (n : Nat)
  | text (s : String)
  | list
  | table
  deriving DecidableEq, Repr

def Found.describe : Found → String
  | nothing => "unit value"
  | integer n => "64-bit integer `" ++ toString n ++ "`"
  | natural n => "64-bit unsigned integer `" ++ toString n ++ "`"
  | text s => "string " ++ Text.quoted s
  | list => "sequence"
  | table => "map"

def Scalar.describe : Scalar → String
  | null => "unit value"
  | boolean b => "boolean `" ++ (if b then "true" else "false") ++ "`"
  | integer n => "integer `" ++ toString n ++ "`"
  | number x => "floating point `" ++ x.write ⟨none, true⟩ ++ "`"
  | text s => "string " ++ Text.quoted s

inductive SectionName where
  | server
  | database
  | logging
  deriving DecidableEq, Repr

namespace SectionName

def key : SectionName → String
  | server => "server"
  | database => "database"
  | logging => "logging"

def describe : SectionName → String
  | server => "struct ServerConfig"
  | database => "struct DatabaseConfig"
  | logging => "struct LoggingConfig"

end SectionName

inductive Error where
  | wrongType (key : String) (origin : Origin) (found : Found) (expected : String)
  | noSection (name : SectionName) (found : Scalar)
  | unknownBackend (name : String)
  | malformedBackend
  | unreadable (path : String)
  deriving DecidableEq, Repr

def Error.message : Error → String
  | wrongType key origin found expected =>
    "invalid type: " ++ found.describe ++ ", expected " ++ expected ++ " for key `" ++ key ++ "`" ++
      (match origin with
        | none => ""
        | some name => " in " ++ name)
  | noSection name found =>
    "invalid type: " ++ found.describe ++ ", expected " ++ name.describe
  | unknownBackend name => "enum StoreBackend does not have variant constructor " ++ name
  | malformedBackend =>
    "value of enum StoreBackend should be represented by either string or table with exactly " ++
      "one key"
  | unreadable path => "malformed settings file in " ++ path

end CardDesk.Settings
