import CardDesk.Proofs.Crowd

namespace CardDesk

inductive Gain where
  | registered (c : Card)
  | removed (id : Int32)
  deriving DecidableEq, Repr

def Gain.id : Gain → Int32
  | registered c => c.id
  | removed id => id

namespace Operation

def gain : Operation → Result → Option Gain
  | register _, .ok (.card c) => some (.registered c)
  | remove id, .ok .nothing => some (.removed id)
  | _, _ => none

end Operation

open Operation

namespace Client

def gain (o : Operation) (t : Client Result) : Option Gain :=
  t.result?.bind o.gain

theorem gain_eq_registered_iff {o : Operation} {t : Client Result} {c : Card} :
    t.gain o = some (.registered c) ↔
      (∃ a, o = .register a) ∧ t.result? = some (.ok (.card c)) := by
  rw [gain, Option.bind_eq_some_iff]
  constructor
  · rintro ⟨x, hx, h⟩
    unfold Operation.gain at h
    split at h
    · cases h
      exact ⟨⟨_, rfl⟩, hx⟩
    · cases h
    · cases h
  · rintro ⟨⟨a, rfl⟩, hx⟩
    exact ⟨_, hx, rfl⟩

theorem gain_eq_removed_iff {o : Operation} {t : Client Result} {id : Int32} :
    t.gain o = some (.removed id) ↔ o = .remove id ∧ t.result? = some (.ok .nothing) := by
  rw [gain, Option.bind_eq_some_iff]
  constructor
  · rintro ⟨x, hx, h⟩
    unfold Operation.gain at h
    split at h
    · cases h
    · cases h
      exact ⟨rfl, hx⟩
    · cases h
  · rintro ⟨rfl, hx⟩
    exact ⟨_, hx, rfl⟩

def AtStage (o : Operation) : Client Result → Prop
  | ready d => Stage o d
  | waiting c k => Stage o (.ask c k)
  | _ => True

end Client

def Call.TellsNoChange : (c : Call) → Except StoreError c.Answer → Prop
  | insert _, x => ∃ e, x = .error e
  | deleteById _, x => x ≠ .ok true
  | _, _ => True

/-- A script under which no removal is claimed that has not been made. -/
def Script.Tame (script : Script) : Prop :=
  some .ghost ∉ script .deleteById

theorem World.begin_register (c : Call) (w : World) : (w.begin c).2.register = w.register := by
  unfold World.begin
  split <;> rfl

theorem World.begin_tame {w : World} (h : w.script.Tame) (c : Call) :
    (w.begin c).2.script.Tame := by
  unfold World.begin
  split
  · exact h
  · rename_i m rest hm
    intro hmem
    dsimp only at hmem
    split at hmem
    · rename_i hc
      rw [← hc] at hm
      exact h (hm ▸ List.mem_cons_of_mem _ hmem)
    · exact h hmem

theorem Mishap.course_tellsNoChange {m : Option Mishap} {c : Call} {x : Except StoreError c.Answer}
    (hm : c.method = .deleteById → m ≠ some .ghost) (h : Mishap.course m c = .answered x) :
    c.TellsNoChange x := by
  cases c with
  | insert a =>
    rcases m with _ | _ | _ | _ | _ | _ | _
    all_goals cases h
    exact ⟨_, rfl⟩
  | deleteById id =>
    rcases m with _ | _ | _ | _ | _ | _ | _
    case some.ghost => exact absurd rfl (hm rfl)
    all_goals cases h
    all_goals simp [Call.TellsNoChange]
  | _ => trivial

theorem World.begin_answered {w : World} (h : w.script.Tame) {c : Call}
    {x : Except StoreError c.Answer} (hx : (w.begin c).1 = .answered x) : c.TellsNoChange x := by
  unfold World.begin at hx
  split at hx
  · cases hx
  · rename_i m rest hm
    apply Mishap.course_tellsNoChange _ hx
    rintro hc rfl
    rw [hc] at hm
    exact h (hm ▸ List.mem_cons_self)

namespace Operation

theorem Unchanged.gain {o : Operation} {d : Dialogue Result} (h : Unchanged o d) :
    (Client.ready d).gain o = none := by
  obtain ⟨-, -, rfl⟩ | ⟨x, rfl, rfl | ⟨e, rfl⟩⟩ := h
  · cases o <;> rfl
  · rfl
  · cases o <;> rfl

theorem Stage.gain_of_tellsNoChange {o : Operation} {c : Call}
    {k : Except StoreError c.Answer → Dialogue Result} (h : Stage o (.ask c k))
    {x : Except StoreError c.Answer} (hx : c.TellsNoChange x) :
    (Client.ready (k x).quiet).gain o = none := by
  obtain ⟨-, ⟨-, hk⟩ | ⟨-, hk⟩⟩ := h.ask_cases
  · exact (hk x).gain
  · cases o with
    | list =>
      cases hk
      cases x <;> rfl
    | register a =>
      cases hk
      obtain ⟨e, rfl⟩ := hx
      cases e <;> rfl
    | remove id =>
      cases hk
      rcases x with e | _ | _
      · rfl
      · rfl
      · exact absurd rfl hx

inductive Settled (o : Operation) (r : Register) : Option Gain → Register → Prop
  | unchanged : Settled o r none r
  | registered {a : Application} {id : Int32} {r' : Register} (ho : o = .register a)
      (h : r.insert a = (.ok id, r')) : Settled o r (some (.registered (a.card id))) r'
  | removed {id : Int32} {r' : Register} (ho : o = .remove id)
      (h : r.deleteById id = (true, r')) : Settled o r (some (.removed id)) r'

theorem Stage.settled {o : Operation} {c : Call} {k : Except StoreError c.Answer → Dialogue Result}
    (h : Stage o (.ask c k)) (r : Register) :
    Settled o r ((Client.ready (k (Register.answer c r).1).quiet).gain o)
      (Register.answer c r).2 := by
  obtain ⟨-, ⟨hc, hk⟩ | ⟨hne, hk⟩⟩ := h.ask_cases
  · rw [(hk _).gain, Register.answer_of_not_mutates hc]
    exact .unchanged
  · cases o with
    | list => exact absurd rfl hne
    | register a =>
      cases hk
      cases hf : r.findByIdentity a with
      | some c =>
        rw [Register.answer, Register.insert_of_found hf]
        exact .unchanged
      | none =>
        have hins := Register.insert_of_not_found hf
        rw [Register.answer, hins]
        exact .registered rfl hins
    | remove id =>
      cases hk
      cases hf : r.findById id with
      | none =>
        rw [Register.answer, Register.deleteById_of_not_found hf]
        exact .unchanged
      | some c =>
        have hdel := Register.deleteById_of_found hf
        rw [Register.answer, hdel]
        exact .removed rfl hdel

end Operation

structure Client.Turned (o : Operation) (t : Client Result) (w : World) (t' : Client Result)
    (w' : World) : Prop where
  stage : t'.AtStage o
  tame : w'.script.Tame
  change : (w'.register = w.register ∧ t'.gain o = t.gain o) ∨
    (t.gain o = none ∧ Settled o w.register (t'.gain o) w'.register)

theorem Client.turned_settle {o : Operation} {c : Call}
    {k : Except StoreError c.Answer → Dialogue Result} (h : Stage o (.ask c k)) {t : Client Result}
    (ht : t.gain o = none) {w₀ w : World} (hr : w.register = w₀.register) (hw : w.script.Tame) :
    Turned o t w₀ (.ready (k (w.settle c).1).quiet) (w.settle c).2 where
  stage := h.next _
  tame := hw
  change := .inr ⟨ht, hr ▸ h.settled w.register⟩

theorem Client.turned {o : Operation} {t : Client Result} (h : t.AtStage o) {w : World}
    (hw : w.script.Tame) : Turned o t w (t.turn w).1 (t.turn w).2.2 := by
  have hidle : Turned o t w t w := ⟨h, hw, .inl ⟨rfl, rfl⟩⟩
  cases t with
  | stalled => exact hidle
  | gone => exact hidle
  | waiting c k => exact turned_settle h rfl rfl hw
  | ready d =>
    obtain ⟨x, rfl⟩ | ⟨c, k, rfl⟩ := Stage.cases h
    · exact hidle
    · have hr := w.begin_register c
      have htame := World.begin_tame hw c
      have hanswered {x} := World.begin_answered (c := c) hw (x := x)
      rw [turn]
      generalize w.begin c = begun at hr htame hanswered
      match begun with
      | (.never, w') => exact ⟨trivial, htame, .inl ⟨hr, rfl⟩⟩
      | (.answered x, w') =>
        exact ⟨Stage.next h x, htame, .inl ⟨hr, Stage.gain_of_tellsNoChange h (hanswered rfl)⟩⟩
      | (.passed 0 _, w') => exact turned_settle h rfl hr htame
      | (.passed (_ + 1) _, w') => exact ⟨h, htame, .inl ⟨hr, rfl⟩⟩

namespace Crowd

variable {ι : Type}

def gain (ops : ι → Operation) (s : Crowd ι Result) (i : ι) : Option Gain :=
  (s.client i).gain (ops i)

theorem gain_enter (ops : ι → Operation) (w : World) :
    (enter ops w).gain ops = fun _ => none := by
  funext i
  rw [gain, enter_client]
  cases ha : (ops i).accepted with
  | false =>
    obtain ⟨e, he⟩ := dialogue_of_not_accepted ha
    rw [he]
    cases ops i <;> rfl
  | true =>
    obtain ⟨c, k, hk⟩ := dialogue_of_accepted ha
    rw [hk]
    rfl

theorem gain_turn [DecidableEq ι] (ops : ι → Operation) (s : Crowd ι Result) (i : ι) :
    (s.step (.turn i)).gain ops =
      Function.update (s.gain ops) i (((s.client i).turn s.world).1.gain (ops i)) := by
  funext j
  by_cases hj : j = i
  · subst hj
    rw [Function.update_self, gain, step_client_self]
  · rw [Function.update_of_ne hj, gain, gain, step_client_of_ne s hj]

end Crowd

end CardDesk
