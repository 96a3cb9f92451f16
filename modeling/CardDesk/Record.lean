import CardDesk.Json.Fault
import CardDesk.Store.Error

namespace CardDesk

inductive Level where
  | error
  | warn
  | info
  | debug
  deriving DecidableEq, Repr

def Level.name : Level → String
  | error => "ERROR"
  | warn => "WARN"
  | info => "INFO"
  | debug => "DEBUG"

def version : String := "0.1.0"

inductive Record where
  | storeFailed (e : StoreError)
  | registered (id : Int32) (name : String) (category : Category)
  | removed (id : Int32)
  | malformed (c : Json.Complaint)
  | received (op : String) (id : Option Int32)
  | notRemoved (id : Int32) (reason : Refusal)
  | unsupported (op : String)
  | unavailable (message : String)
  | inMemory
  | connected
  | migrated
  | starting
  | listening (address : String)
  | stopping
  | released
  deriving DecidableEq, Repr

namespace Record

def level : Record → Level
  | storeFailed _ => .error
  | registered .. | removed _ | notRemoved .. => .info
  | malformed _ | unsupported _ | unavailable _ | inMemory => .warn
  | received .. => .debug
  | connected | migrated | starting | listening _ | stopping | released => .info

def message : Record → String
  | storeFailed _ => "Card store operation failed"
  | registered .. => "Card registered"
  | removed _ => "Card removed"
  | malformed _ => "Rejected malformed card request"
  | received .. => "Received card request"
  | notRemoved .. => "Failed to remove the card"
  | unsupported _ => "Unsupported card operation"
  | unavailable message => "Service unavailable: " ++ message
  | inMemory => "Using in-memory card store, data will not survive a restart"
  | connected => "Connected to database"
  | migrated => "Database migrations completed"
  | starting => "Starting library card server v" ++ version
  | listening address => "Server listening on http://" ++ address
  | stopping => "Shutdown signal received"
  | released => "Released card store connection"

def optionText : Option Int32 → String
  | none => "None"
  | some id => "Some(" ++ toString id.toInt ++ ")"

def fields : Record → List (String × String)
  | storeFailed e => [("error", e.message)]
  | registered id name category =>
    [("id", toString id.toInt), ("name", name), ("card_type", category.code)]
  | removed id => [("id", toString id.toInt)]
  | malformed c => [("error", c.message)]
  | received op id => [("op", op), ("id", optionText id)]
  | notRemoved id reason => [("id", toString id.toInt), ("reason", reason.message)]
  | unsupported op => [("op", op)]
  | _ => []

def target : Record → String
  | storeFailed _ | registered .. | removed _ => "library_card_server::services::cards"
  | malformed _ | received .. | notRemoved .. | unsupported _ => "library_card_server::api::cards"
  | unavailable _ => "library_card_server::error"
  | inMemory | connected | migrated => "library_card_server::repository"
  | starting | listening _ | stopping | released => "library_card_server"

def line (r : Record) : String :=
  " ".intercalate (r.message :: r.fields.map fun (k, v) => k ++ "=" ++ v)

end Record

end CardDesk
