import CardDesk.Text.Blank

namespace CardDesk

inductive Category where
  | teacher
  | student
  deriving DecidableEq, Repr

namespace Category

def code : Category → String
  | teacher => "T"
  | student => "S"

def ofCode? (text : String) : Option Category :=
  match Text.trim text with
  | "T" => some teacher
  | "S" => some student
  | _ => none

def ofLabel? (text : String) : Option Category :=
  match Text.trim text with
  | "教师" => some teacher
  | "T" => some teacher
  | "学生" => some student
  | "S" => some student
  | _ => none

end Category

structure Card where
  id : Int32
  name : String
  department : String
  category : Category
  deriving DecidableEq, Repr

structure Application where
  name : String
  department : String
  category : Category
  deriving DecidableEq, Repr

inductive Application.Field where
  | name
  | department
  deriving DecidableEq, Repr

namespace Application

def trimmed (name department : String) (category : Category) : Application :=
  ⟨Text.trim name, Text.trim department, category⟩

def emptyFields (a : Application) : List Field :=
  (if a.name = "" then [.name] else []) ++ (if a.department = "" then [.department] else [])

def card (a : Application) (id : Int32) : Card :=
  ⟨id, a.name, a.department, a.category⟩

end Application

namespace Card

def application (c : Card) : Application :=
  ⟨c.name, c.department, c.category⟩

end Card

@[simp] theorem Application.application_card (a : Application) (id : Int32) :
    (a.card id).application = a :=
  rfl

@[simp] theorem Card.card_application (c : Card) : c.application.card c.id = c :=
  rfl

theorem Category.ofCode?_code (c : Category) : ofCode? c.code = some c := by
  cases c <;> decide

end CardDesk
