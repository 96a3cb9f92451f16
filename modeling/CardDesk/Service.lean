import CardDesk.Store.Dialogue

/-!
The operations on cards. Each looks the card up before it changes anything and puts at most one
changing call, which is its last; the store's own answer to that call decides.
-/

namespace CardDesk.Service

def refuse (e : StoreError) : Dialogue (Except Refusal α) :=
  .note (.storeFailed e) (.done (.error (.storeFailed e)))

def list : Dialogue (Except Refusal (List Card)) :=
  .ask .findAll fun
    | .error e => refuse e
    | .ok cards => .done (.ok cards)

/-- The insertion of a new card. That someone else has just inserted the same card is no failure of
the store. -/
def insert (a : Application) : Dialogue (Except Refusal Card) :=
  .ask (.insert a) fun
    | .error .duplicate => .done (.error .alreadyExists)
    | .error e => refuse e
    | .ok id => .note (.registered id a.name a.category) (.done (.ok (a.card id)))

def register (a : Application) : Dialogue (Except Refusal Card) :=
  match a.check with
  | .error r => .done (.error r)
  | .ok () =>
    .ask (.findByIdentity a.name a.department a.category) fun
      | .error e => refuse e
      | .ok (some _) => .done (.error .alreadyExists)
      | .ok none => insert a

def delete (id : Int32) : Dialogue (Except Refusal Unit) :=
  .ask (.deleteById id) fun
    | .error e => refuse e
    | .ok false => .done (.error (.notFound id))
    | .ok true => .note (.removed id) (.done (.ok ()))

def remove (id : Int32) : Dialogue (Except Refusal Unit) :=
  .ask (.findById id) fun
    | .error e => refuse e
    | .ok none => .done (.error (.notFound id))
    | .ok (some _) => delete id

def ping : Dialogue (Except Refusal Unit) :=
  .ask .ping fun
    | .error e => refuse e
    | .ok () => .done (.ok ())

end CardDesk.Service
