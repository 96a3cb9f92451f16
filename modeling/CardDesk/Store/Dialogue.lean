import CardDesk.Record
import CardDesk.Store.Call

/-!
Work that is done in talks with a card store: it puts a call, looks at the answer and goes on, and
writes records on its way. What a dialogue does with a given store is `run`; what can happen between
its calls is left to whoever interprets it.
-/

namespace CardDesk

inductive Dialogue (α : Type) where
  | done (a : α)
  | note (r : Record) (rest : Dialogue α)
  | ask (c : Call) (next : Except StoreError c.Answer → Dialogue α)

namespace Dialogue

def bind : Dialogue α → (α → Dialogue β) → Dialogue β
  | done a, f => f a
  | note r d, f => note r (d.bind f)
  | ask c k, f => ask c fun x => (k x).bind f

instance : Monad Dialogue where
  pure := done
  bind := bind

def put (c : Call) : Dialogue (Except StoreError c.Answer) :=
  ask c done

def log (r : Record) : Dialogue Unit :=
  note r (done ())

def run (store : Store σ) : Dialogue α → σ → α × List Record × σ
  | done a, s => (a, [], s)
  | note r d, s =>
    let (a, records, s) := d.run store s
    (a, r :: records, s)
  | ask c k, s =>
    let (x, s) := store c s
    (k x).run store s

@[simp] theorem bind_eq (d : Dialogue α) (f : α → Dialogue β) : d >>= f = d.bind f :=
  rfl

@[simp] theorem pure_eq (a : α) : (pure a : Dialogue α) = done a :=
  rfl

theorem run_bind (store : Store σ) (d : Dialogue α) (f : α → Dialogue β) (s : σ) :
    (d.bind f).run store s =
      let (a, records, s) := d.run store s
      let (b, more, s) := (f a).run store s
      (b, records ++ more, s) := by
  induction d generalizing s with
  | done a => simp [bind, run]
  | note r d ih => simp [bind, run, ih]
  | ask c k ih => simp [bind, run, ih]

end Dialogue

end CardDesk
