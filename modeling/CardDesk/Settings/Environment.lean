import CardDesk.Number.Literal
import CardDesk.Settings.KeyPath

namespace CardDesk.Settings

abbrev Environment := List (String × String)

namespace Environment

def origin : Origin := some "the environment"

def start : List Char := "cards_".toList

def dotted : List Char → List Char
  | '_' :: '_' :: rest => '.' :: dotted rest
  | c :: rest => c :: dotted rest
  | [] => []

def settingName? (name : String) : Option String :=
  let key := (Text.lower name).toList
  if start.isPrefixOf key then some (String.ofList (dotted (key.drop start.length))) else none

def meaning (value : String) : Scalar :=
  if Text.lower value = "true" then .boolean true
  else if Text.lower value = "false" then .boolean false
  else
    match Literal.int64? value.toList with
    | some n => .integer n
    | none =>
      match Literal.double? value.toList with
      | some x => .number x
      | none => .text value

def layer (env : Environment) : Layer :=
  env.foldl (fun layer (name, value) =>
    match settingName? name with
    | none => layer
    | some key => Keyed.put key (.scalar origin (meaning value)) layer) []

end Environment

end CardDesk.Settings
