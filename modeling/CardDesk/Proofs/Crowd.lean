import CardDesk.Proofs.Operation
import CardDesk.Proofs.Talk
import CardDesk.Store.Mishap
import Mathlib.Data.List.Dedup
import Mathlib.Logic.Function.Basic

/-!
Any number of clients at one register, each with a dialogue of its own. Their turns come in any
order, so a call that waits may wait for as long as others please. A client may leave at any time;
what it has done stays done.
-/

namespace CardDesk

variable {ι α : Type}

theorem Dialogue.Asks.quiet {p : Call → Prop} {d : Dialogue α} (h : d.Asks p) : d.quiet.Asks p := by
  induction d with
  | done a => trivial
  | note r d ih => exact ih h
  | ask c k => exact h

inductive Client (α : Type) where
  | ready (d : Dialogue α)
  | waiting (c : Call) (next : Except StoreError c.Answer → Dialogue α)
  | stalled
  | gone

namespace Client

def result? : Client α → Option α
  | ready (.done a) => some a
  | _ => none

theorem result?_eq_some_iff {t : Client α} {a : α} :
    t.result? = some a ↔ t = ready (.done a) := by
  constructor
  · intro h
    unfold result? at h
    split at h
    · rw [Option.some.inj h]
    · cases h
  · rintro rfl
    rfl

def turn : Client α → World → Client α × Option Call × World
  | ready (.ask c k), w =>
    match w.begin c with
    | (.never, w) => (stalled, none, w)
    | (.answered x, w) => (ready (k x).quiet, none, w)
    | (.passed 0 _, w) => (ready (k (w.settle c).1).quiet, some c, (w.settle c).2)
    | (.passed (_ + 1) _, w) => (waiting c k, none, w)
  | waiting c k, w => (ready (k (w.settle c).1).quiet, some c, (w.settle c).2)
  | t, w => (t, none, w)

theorem turn_ask {w : World} (hw : w.script = .none) (c : Call)
    (k : Except StoreError c.Answer → Dialogue α) :
    (ready (.ask c k)).turn w =
      (ready (k (Register.answer c w.register).1).quiet, some c,
        ⟨(Register.answer c w.register).2, .none⟩) := by
  obtain ⟨r, script⟩ := w
  change script = .none at hw
  subst hw
  rfl

def Asks (p : Call → Prop) : Client α → Prop
  | ready d => d.Asks p
  | waiting c k => p c ∧ ∀ x, (k x).Asks p
  | _ => True

theorem turn_keeps {p : Call → Prop} {P : Register → Prop}
    (hP : ∀ c r, p c → P r → P (Register.answer c r).2) {t : Client α} (ht : t.Asks p) {w : World}
    (hw : P w.register) : (t.turn w).1.Asks p ∧ P (t.turn w).2.2.register := by
  cases t with
  | stalled => exact ⟨trivial, hw⟩
  | gone => exact ⟨trivial, hw⟩
  | waiting c k => exact ⟨(ht.2 _).quiet, hP c w.register ht.1 hw⟩
  | ready d =>
    cases d with
    | done a => exact ⟨trivial, hw⟩
    | note r d => exact ⟨ht, hw⟩
    | ask c k =>
      obtain ⟨hc, hk⟩ := ht
      delta turn
      dsimp only
      rw [World.begin_eq]
      generalize Mishap.course (w.script.entry c) c = course
      cases course with
      | never => exact ⟨trivial, hw⟩
      | answered x => exact ⟨(hk x).quiet, hw⟩
      | passed before after =>
        cases before with
        | zero => exact ⟨(hk _).quiet, hP c w.register hc hw⟩
        | succ n => exact ⟨⟨hc, hk⟩, hw⟩

end Client

inductive Move (ι : Type) where
  | turn (i : ι)
  | leave (i : ι)
  deriving DecidableEq, Repr

def Move.client : Move ι → ι
  | turn i => i
  | leave i => i

/-- The clients with the world that they share and the calls that the register has answered, the
latest one last. -/
structure Crowd (ι α : Type) where
  world : World
  client : ι → Client α
  answered : List (ι × Call)

namespace Crowd

def gather (ds : ι → Dialogue α) (w : World) : Crowd ι α :=
  ⟨w, fun i => .ready (ds i).quiet, []⟩

def enter (ops : ι → Operation) (w : World) : Crowd ι Operation.Result :=
  gather (fun i => (ops i).dialogue) w

theorem enter_client (ops : ι → Operation) (w : World) (i : ι) :
    (enter ops w).client i = .ready (ops i).dialogue :=
  congrArg Client.ready (ops i).dialogue_quiet

variable [DecidableEq ι]

def step (s : Crowd ι α) : Move ι → Crowd ι α
  | .turn i =>
    let (t, c, w) := (s.client i).turn s.world
    ⟨w, Function.update s.client i t, s.answered ++ (c.map fun c => (i, c)).toList⟩
  | .leave i => { s with client := Function.update s.client i .gone }

def run (s : Crowd ι α) (moves : List (Move ι)) : Crowd ι α :=
  moves.foldl step s

def changed (s : Crowd ι α) (i : ι) : Bool :=
  s.answered.any fun e => e.1 = i && e.2.mutates

def lastAnswers (s : Crowd ι α) : List ι :=
  (s.answered.map Prod.fst).dedup

/-- Whether a client counts as served: it has come to its end, or has left after it changed the
register. -/
def served (s : Crowd ι α) (i : ι) : Bool :=
  match s.client i with
  | .gone => s.changed i
  | t => t.result?.isSome

/-- The clients that have been served, in the order of the last answers to them. -/
def order (s : Crowd ι α) : List ι :=
  s.lastAnswers.filter s.served

theorem step_client_self (s : Crowd ι α) (i : ι) :
    (s.step (.turn i)).client i = ((s.client i).turn s.world).1 :=
  Function.update_self ..

theorem step_client_of_ne (s : Crowd ι α) {m : Move ι} {j : ι} (h : j ≠ m.client) :
    (s.step m).client j = s.client j := by
  cases m with
  | turn i => exact Function.update_of_ne h ..
  | leave i => exact Function.update_of_ne h ..

theorem step_changed_of_ne (s : Crowd ι α) {m : Move ι} {j : ι} (h : j ≠ m.client) :
    (s.step m).changed j = s.changed j := by
  cases m with
  | leave i => rfl
  | turn i =>
    have hi : i ≠ j := h.symm
    simp only [changed, step, List.any_append]
    cases ((s.client i).turn s.world).2.1 <;> simp [hi]

theorem step_served_of_ne (s : Crowd ι α) {m : Move ι} {j : ι} (h : j ≠ m.client) :
    (s.step m).served j = s.served j := by
  rw [served, served, step_client_of_ne s h, step_changed_of_ne s h]

theorem run_keeps {P : Crowd ι α → Prop} {s : Crowd ι α} (hs : P s) {moves : List (Move ι)}
    (hstep : ∀ s, ∀ m ∈ moves, P s → P (s.step m)) : P (s.run moves) := by
  induction moves generalizing s with
  | nil => exact hs
  | cons m moves ih =>
    apply ih (hstep s m List.mem_cons_self hs)
    exact fun s m hm => hstep s m (List.mem_cons_of_mem _ hm)

theorem run_keeps_register {p : Call → Prop} {P : Register → Prop}
    (hP : ∀ c r, p c → P r → P (Register.answer c r).2) {s : Crowd ι α}
    (hclients : ∀ i, (s.client i).Asks p) (hs : P s.world.register) (moves : List (Move ι)) :
    P (s.run moves).world.register := by
  have hrun : (∀ i, ((s.run moves).client i).Asks p) ∧ P (s.run moves).world.register := by
    apply run_keeps (P := fun s => (∀ i, (s.client i).Asks p) ∧ P s.world.register) ⟨hclients, hs⟩
    rintro s m - ⟨hclients, hs⟩
    cases m with
    | turn i =>
      obtain ⟨hclient, hregister⟩ := Client.turn_keeps hP (hclients i) hs
      refine ⟨?_, hregister⟩
      exact (Function.forall_update_iff _ fun _ => Client.Asks p).mpr
        ⟨hclient, fun j _ => hclients j⟩
    | leave i =>
      refine ⟨?_, hs⟩
      exact (Function.forall_update_iff _ fun _ => Client.Asks p).mpr
        ⟨trivial, fun j _ => hclients j⟩
  exact hrun.2

end Crowd

end CardDesk
