import CardDesk.Store.Error

namespace CardDesk

inductive Call where
  | findAll
  | findByIdentity (name department : String) (category : Category)
  | insert (a : Application)
  | findById (id : Int32)
  | deleteById (id : Int32)
  | ping
  | release
  deriving DecidableEq, Repr

namespace Call

/-- All cards by ascending id, the card looked for, the id given to a new card, or whether a card
has been removed. -/
abbrev Answer : Call → Type
  | findAll => List Card
  | findByIdentity .. => Option Card
  | insert _ => Int32
  | findById _ => Option Card
  | deleteById _ => Bool
  | ping => Unit
  | release => Unit

end Call

abbrev Store (σ : Type) := (c : Call) → σ → Except StoreError c.Answer × σ

inductive Method where
  | findAll
  | findByIdentity
  | insert
  | findById
  | deleteById
  | ping
  | release
  deriving DecidableEq, Repr

def Call.method : Call → Method
  | findAll => .findAll
  | findByIdentity .. => .findByIdentity
  | insert _ => .insert
  | findById _ => .findById
  | deleteById _ => .deleteById
  | ping => .ping
  | release => .release

def Call.mutates : Call → Bool
  | insert _ => true
  | deleteById _ => true
  | _ => false

end CardDesk
