import CardDesk.Store.Call

namespace CardDesk

structure Register where
  lastId : Int32 := 0
  rows : List (Int32 × Card) := []
  deriving DecidableEq, Repr

namespace Register

def empty : Register := {}

def cards (r : Register) : List Card :=
  r.rows.map Prod.snd

def findById (r : Register) (id : Int32) : Option Card :=
  r.rows.lookup id

def findByIdentity (r : Register) (a : Application) : Option Card :=
  r.cards.find? fun c => c.application = a

def place (id : Int32) (c : Card) : List (Int32 × Card) → List (Int32 × Card)
  | [] => [(id, c)]
  | (k, d) :: rows =>
    if id < k then (id, c) :: (k, d) :: rows
    else if id = k then (id, c) :: rows
    else (k, d) :: place id c rows

def insert (r : Register) (a : Application) : Except StoreError Int32 × Register :=
  if r.cards.any fun c => c.application = a then (.error .duplicate, r)
  else
    let id := r.lastId + 1
    (.ok id, ⟨id, place id (a.card id) r.rows⟩)

def deleteById (r : Register) (id : Int32) : Bool × Register :=
  (r.rows.any fun row => row.1 = id, { r with rows := r.rows.filter fun row => row.1 ≠ id })

def answer : Store Register
  | .findAll, r => (.ok r.cards, r)
  | .findByIdentity name department category, r =>
    (.ok (r.findByIdentity ⟨name, department, category⟩), r)
  | .insert a, r => r.insert a
  | .findById id, r => (.ok (r.findById id), r)
  | .deleteById id, r =>
    let (removed, r) := r.deleteById id
    (.ok removed, r)
  | .ping, r => (.ok (), r)
  | .release, r => (.ok (), r)

theorem answer_of_not_mutates {c : Call} (h : c.mutates = false) (r : Register) :
    (answer c r).2 = r := by
  cases c <;> first | rfl | simp [Call.mutates] at h

end Register

end CardDesk
