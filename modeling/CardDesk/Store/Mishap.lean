import CardDesk.Record
import CardDesk.Store.Register

/-!
A register behind a layer at which things go wrong as a script says: calls fail, are answered
falsely, late or never. The script holds a list for each kind of call, of which each such call takes
the first entry.
-/

namespace CardDesk

inductive Mishap where
  | fail (e : StoreError)
  /-- A look-up finds nothing, a deletion removes nothing. -/
  | absent
  /-- A look-up finds a card that is not there, a deletion claims to have removed one. -/
  | ghost
  | hang
  | before (ms : Nat)
  | after (ms : Nat)
  deriving DecidableEq, Repr

abbrev Script := Method → List (Option Mishap)

def Script.none : Script := fun _ => []

/-- What becomes of one call: it is never answered, it is answered without the register, or the
register answers it between two waits. -/
inductive Course (c : Call) where
  | never
  | answered (x : Except StoreError c.Answer)
  | passed (before after : Nat)

def Card.ghost (id : Int32) : Card :=
  ⟨id, "ghost", "ghost", .student⟩

namespace Mishap

def failing (e : StoreError) : (c : Call) → Course c
  | .release => .passed 0 0
  | .findAll | .findByIdentity .. | .insert _ | .findById _ | .deleteById _ | .ping =>
    .answered (.error e)

def absence : (c : Call) → Course c
  | .findByIdentity .. => .answered (.ok Option.none)
  | .findById _ => .answered (.ok Option.none)
  | .deleteById _ => .answered (.ok false)
  | _ => .passed 0 0

def haunting : (c : Call) → Course c
  | .findByIdentity .. => .answered (.ok (some (Card.ghost 0)))
  | .findById id => .answered (.ok (some (Card.ghost id)))
  | .deleteById _ => .answered (.ok true)
  | _ => .passed 0 0

def delay (ms : Nat) : (c : Call) → Course c
  | .ping => .passed ms 0
  | _ => .passed 0 ms

def course : Option Mishap → (c : Call) → Course c
  | none, _ => .passed 0 0
  | some (fail e), c => failing e c
  | some absent, c => absence c
  | some ghost, c => haunting c
  | some hang, _ => .never
  | some (before ms), _ => .passed ms 0
  | some (after ms), c => delay ms c

end Mishap

structure World where
  register : Register
  script : Script

namespace Script

def entry (s : Script) (c : Call) : Option Mishap :=
  (s c.method).head?.join

def next (s : Script) (c : Call) : Script :=
  fun m => if m = c.method then (s m).tail else s m

end Script

namespace World

def fresh (script : Script) : World :=
  ⟨.empty, script⟩

def begin (c : Call) (w : World) : Course c × World :=
  match w.script c.method with
  | [] => (.passed 0 0, w)
  | m :: rest =>
    (Mishap.course m c, { w with script := fun n => if n = c.method then rest else w.script n })

theorem begin_eq (c : Call) (w : World) :
    w.begin c = (Mishap.course (w.script.entry c) c, ⟨w.register, w.script.next c⟩) := by
  rw [begin, Script.entry]
  cases h : w.script c.method with
  | nil =>
    have hnext : w.script.next c = w.script := by
      funext m
      rw [Script.next]
      split
      · rename_i hm
        rw [hm, h, List.tail_nil]
      · rfl
    rw [hnext]
    rfl
  | cons m rest =>
    have hnext : w.script.next c = fun n => if n = c.method then rest else w.script n := by
      funext n
      rw [Script.next]
      split
      · rename_i hn
        rw [hn, h, List.tail_cons]
      · rfl
    rw [hnext]
    rfl

def settle (c : Call) (w : World) : Except StoreError c.Answer × World :=
  let (x, r) := Register.answer c w.register
  (x, { w with register := r })

end World

inductive Event where
  | call (c : Call)
  | record (r : Record)
  deriving DecidableEq, Repr

namespace Event

def calls (events : List Event) : List Call :=
  events.filterMap fun
    | call c => some c
    | record _ => none

def records (events : List Event) : List Record :=
  events.filterMap fun
    | call _ => none
    | record r => some r

end Event

end CardDesk
