import CardDesk.Proofs.Session
import CardDesk.Proofs.Talk

namespace CardDesk

variable {α : Type}

namespace Dialogue

/-- The registers that a timed run goes through: the one at its beginning, and one more whenever a
call has been answered. -/
def moments (limit : Option Nat) : Dialogue α → Nat → World → List Register
  | done _, _, w => [w.register]
  | note _ d, now, w => d.moments limit now w
  | ask c k, now, w =>
    w.register ::
      match w.begin c with
      | (.never, _) => []
      | (.answered x, w) => (k x).moments limit now w
      | (.passed before after, w) =>
        if reached limit (now + before) then []
        else
          let (x, w) := w.settle c
          if reached limit (now + before + after) then [w.register]
          else (k x).moments limit (now + before + after) w

theorem moments_getLast? (d : Dialogue α) (limit : Option Nat) (now : Nat) (w : World) :
    (d.moments limit now w).getLast? = some (d.within limit now w).world.register := by
  induction d generalizing now w with
  | done a => rfl
  | note r d ih => exact ih now w
  | ask c k ih =>
    rw [moments, within, World.begin_eq, List.getLast?_cons]
    generalize Mishap.course (w.script.entry c) c = course
    cases course with
    | never => rfl
    | answered x =>
      dsimp only
      rw [ih, Option.getD_some]
      rfl
    | passed before after =>
      dsimp only
      split
      · rfl
      split
      · rfl
      · rw [ih, Option.getD_some]
        rfl

theorem within_mem_moments (d : Dialogue α) (limit : Option Nat) (now : Nat) (w : World) :
    (d.within limit now w).world.register ∈ d.moments limit now w :=
  List.mem_of_getLast? (d.moments_getLast? limit now w)

theorem moments_keep {p : Call → Prop} {P : Register → Prop}
    (hP : ∀ c r, p c → P r → P (Register.answer c r).2) {d : Dialogue α} (hd : d.Asks p)
    (limit : Option Nat) (now : Nat) {w : World} (hw : P w.register) :
    ∀ r ∈ d.moments limit now w, P r := by
  induction d generalizing now w with
  | done a =>
    intro r hr
    rw [moments, List.mem_singleton] at hr
    exact hr ▸ hw
  | note record d ih => exact ih hd now hw
  | ask c k ih =>
    obtain ⟨hc, hk⟩ := hd
    intro r hr
    rw [moments, World.begin_eq, List.mem_cons] at hr
    rcases hr with rfl | hr
    · exact hw
    have hsettled : P (Register.answer c w.register).2 := hP c w.register hc hw
    generalize Mishap.course (w.script.entry c) c = course at hr
    cases course with
    | never => cases hr
    | answered x => exact ih x (hk x) now (w := ⟨w.register, w.script.next c⟩) hw r hr
    | passed before after =>
      dsimp only [World.settle] at hr
      split at hr
      · cases hr
      split at hr
      · rw [List.mem_singleton] at hr
        exact hr ▸ hsettled
      · exact ih _ (hk _) _ (w := ⟨(Register.answer c w.register).2, w.script.next c⟩) hsettled r hr

theorem Asks.within {p : Call → Prop} {d : Dialogue α} (hd : d.Asks p) (limit : Option Nat)
    (now : Nat) (w : World) : ∀ c ∈ Event.calls (d.within limit now w).events, p c := by
  induction d generalizing now w with
  | done a => exact fun c hc => absurd hc (by simp [Dialogue.within, Event.calls])
  | note r d ih => exact ih hd now w
  | ask c k ih =>
    obtain ⟨hc, hk⟩ := hd
    have hcalls (o : Outcome α) :
        Event.calls (o.after (.call c)).events = c :: Event.calls o.events := rfl
    rw [Dialogue.within, World.begin_eq, hcalls, List.forall_mem_cons]
    refine ⟨hc, ?_⟩
    generalize Mishap.course (w.script.entry c) c = course
    cases course with
    | never => simp [Event.calls]
    | answered x => exact ih x (hk x) now _
    | passed before after =>
      dsimp only
      split
      · simp [Event.calls]
      split
      · simp [Event.calls]
      · exact ih _ (hk _) _ _

end Dialogue

namespace Http

def momentsOf (seconds : UInt64) (q : Request) (w : World) : List Register :=
  let limit := some (limitOf seconds)
  if reached limit 0 then [w.register] else (answer q).moments limit 0 w

/-- The registers that the desk goes through while it answers requests one after the other. -/
def moments (seconds : UInt64) : List Request → World → List Register
  | [], w => [w.register]
  | q :: qs, w => momentsOf seconds q w ++ moments seconds qs (serve seconds q w).world

theorem serve_mem_momentsOf (seconds : UInt64) (q : Request) (w : World) :
    (serve seconds q w).world.register ∈ momentsOf seconds q w := by
  rw [serve, momentsOf]
  dsimp only
  split
  · exact List.mem_singleton_self _
  · exact (answer q).within_mem_moments _ _ w

theorem serveAll_mem_moments (seconds : UInt64) (qs : List Request) (w : World) :
    ∀ x ∈ serveAll seconds qs w, x.world.register ∈ moments seconds qs w := by
  induction qs generalizing w with
  | nil => simp [serveAll]
  | cons q qs ih =>
    intro x hx
    rw [moments, List.mem_append]
    rcases List.mem_cons.mp hx with rfl | hx
    · exact .inl (serve_mem_momentsOf seconds q w)
    · exact .inr (ih _ x hx)

section Keep

variable {p : Call → Prop} {P : Register → Prop}

theorem momentsOf_keep (hP : ∀ c r, p c → P r → P (Register.answer c r).2) {q : Request}
    (hq : (answer q).Asks p) (seconds : UInt64) {w : World} (hw : P w.register) :
    ∀ r ∈ momentsOf seconds q w, P r := by
  rw [momentsOf]
  split
  · intro r hr
    exact List.mem_singleton.mp hr ▸ hw
  · exact Dialogue.moments_keep hP hq _ _ hw

theorem moments_keep (hP : ∀ c r, p c → P r → P (Register.answer c r).2) {qs : List Request}
    (hqs : ∀ q ∈ qs, (answer q).Asks p) (seconds : UInt64) {w : World} (hw : P w.register) :
    ∀ r ∈ moments seconds qs w, P r := by
  induction qs generalizing w with
  | nil =>
    intro r hr
    exact List.mem_singleton.mp hr ▸ hw
  | cons q qs ih =>
    obtain ⟨hq, hqs⟩ := List.forall_mem_cons.mp hqs
    have hone := momentsOf_keep hP hq seconds hw
    intro r hr
    rcases List.mem_append.mp hr with hr | hr
    · exact hone r hr
    · exact ih hqs (hone _ (serve_mem_momentsOf seconds q w)) r hr

end Keep

theorem serve_asks {p : Call → Prop} {q : Request} (hq : (answer q).Asks p) (seconds : UInt64)
    (w : World) : ∀ c ∈ Event.calls (serve seconds q w).events, p c := by
  rw [serve]
  dsimp only
  split
  · simp [Event.calls]
  · exact hq.within _ _ w

theorem serveAll_asks {p : Call → Prop} {qs : List Request} (hqs : ∀ q ∈ qs, (answer q).Asks p)
    (seconds : UInt64) (w : World) :
    ∀ x ∈ serveAll seconds qs w, ∀ c ∈ Event.calls x.events, p c := by
  induction qs generalizing w with
  | nil => simp [serveAll]
  | cons q qs ih =>
    obtain ⟨hq, hqs⟩ := List.forall_mem_cons.mp hqs
    intro x hx
    rcases List.mem_cons.mp hx with rfl | hx
    · exact serve_asks hq seconds w
    · exact ih hqs _ x hx

end Http

end CardDesk
