import CardDesk.Proofs.RegisterInvariant
import CardDesk.Service

namespace CardDesk

variable {α β : Type}

namespace Dialogue

def quiet : Dialogue α → Dialogue α
  | done a => done a
  | note _ d => d.quiet
  | ask c k => ask c k

def outcome (d : Dialogue α) (r : Register) : α × Register :=
  ((d.run Register.answer r).1, (d.run Register.answer r).2.2)

@[simp] theorem outcome_done (a : α) (r : Register) : (done a).outcome r = (a, r) :=
  rfl

@[simp] theorem outcome_note (record : Record) (d : Dialogue α) (r : Register) :
    (note record d).outcome r = d.outcome r :=
  rfl

@[simp] theorem outcome_ask (c : Call) (k : Except StoreError c.Answer → Dialogue α)
    (r : Register) :
    (ask c k).outcome r = (k (Register.answer c r).1).outcome (Register.answer c r).2 :=
  rfl

@[simp] theorem outcome_quiet (d : Dialogue α) (r : Register) :
    d.quiet.outcome r = d.outcome r := by
  induction d with
  | done a => rfl
  | note record d ih => exact ih
  | ask c k => rfl

theorem outcome_of_quiet {d : Dialogue α} {a : α} (h : d.quiet = done a) (r : Register) :
    d.outcome r = (a, r) := by
  rw [← outcome_quiet, h, outcome_done]

end Dialogue

inductive Operation where
  | list
  | register (a : Application)
  | remove (id : Int32)
  deriving DecidableEq, Repr

namespace Operation

inductive Value where
  | cards (cs : List Card)
  | card (c : Card)
  | nothing
  deriving DecidableEq, Repr

abbrev Result := Except Refusal Value

def dialogue : Operation → Dialogue Result
  | list => Service.list.bind fun x => .done (x.map .cards)
  | register a => (Service.register a).bind fun x => .done (x.map .card)
  | remove id => (Service.remove id).bind fun x => .done (x.map fun _ => .nothing)

def rest : Operation → Dialogue Result
  | list => dialogue list
  | register a => (Service.insert a).bind fun x => .done (x.map .card)
  | remove id => (Service.delete id).bind fun x => .done (x.map fun _ => .nothing)

def accepted : Operation → Bool
  | register a => a.check.isOk
  | _ => true

def run (o : Operation) (r : Register) : Result × Register :=
  o.dialogue.outcome r

theorem check_of_accepted {a : Application} (h : (register a).accepted = true) :
    a.check = .ok () := by
  cases hc : a.check with
  | ok u => rfl
  | error e => simp [accepted, hc, Except.isOk, Except.toBool] at h

theorem dialogue_of_not_accepted {o : Operation} (h : o.accepted = false) :
    ∃ e, o.dialogue = .done (.error e) := by
  cases o with
  | register a =>
    cases hc : a.check with
    | ok u => simp [accepted, hc, Except.isOk, Except.toBool] at h
    | error e => exact ⟨e, by rw [dialogue, Service.register, hc]; rfl⟩
  | _ => simp [accepted] at h

theorem insert_outcome_of_found {r : Register} {a : Application} {c : Card}
    (h : r.findByIdentity a = some c) :
    (register a).rest.outcome r = (.error .alreadyExists, r) := by
  simp [rest, Service.insert, Dialogue.bind, Register.answer, Register.insert_of_found h,
    Except.map]

theorem register_restarts {a : Application} (h : (register a).accepted = true) (r : Register) :
    (register a).rest.outcome r = (register a).run r := by
  rw [run, dialogue, Service.register, check_of_accepted h]
  -- The look-up and the insertion check the same thing, so they refuse in the same registers.
  cases hf : r.findByIdentity a with
  | some c =>
    rw [insert_outcome_of_found hf]
    simp [Dialogue.bind, Register.answer, hf, Except.map]
  | none => simp [Dialogue.bind, Register.answer, hf, rest]

theorem remove_restarts (id : Int32) (r : Register) :
    (remove id).rest.outcome r = (remove id).run r := by
  rw [run, dialogue, Service.remove]
  cases hf : r.findById id with
  | some c => simp [Dialogue.bind, Register.answer, hf, rest]
  | none =>
    simp [rest, Service.delete, Dialogue.bind, Register.answer, hf,
      Register.deleteById_of_not_found hf, Except.map]

theorem dialogue_of_accepted {o : Operation} (h : o.accepted = true) :
    ∃ c k, o.dialogue = .ask c k := by
  cases o with
  | register a =>
    rw [dialogue, Service.register, check_of_accepted h]
    exact ⟨_, _, rfl⟩
  | _ => exact ⟨_, _, rfl⟩

theorem rest_outcome {o : Operation} (h : o.accepted = true) (r : Register) :
    o.rest.outcome r = o.run r := by
  cases o with
  | list => rfl
  | register a => exact register_restarts h r
  | remove id => exact remove_restarts id r

/-- What an operation may still have to do between two of its calls. -/
inductive Stage (o : Operation) : Dialogue Result → Prop
  | begun : Stage o o.dialogue
  | looked (h : o.accepted = true) : Stage o o.rest
  | ended (x : Result) : Stage o (.done x)

def Unchanged (o : Operation) (d : Dialogue Result) : Prop :=
  (o.accepted = true ∧ o ≠ .list ∧ d = o.rest) ∨
    ∃ x, d = .done x ∧ (o = .list ∨ ∃ e, x = .error e)

theorem dialogue_asks {o : Operation} {c : Call} {k : Except StoreError c.Answer → Dialogue Result}
    (h : .ask c k = o.dialogue) :
    o.accepted = true ∧ c.mutates = false ∧ ∀ x, Unchanged o (k x).quiet := by
  cases o with
  | list =>
    cases h
    refine ⟨rfl, rfl, fun x => ?_⟩
    cases x with
    | error e => exact .inr ⟨_, rfl, .inl rfl⟩
    | ok cards => exact .inr ⟨_, rfl, .inl rfl⟩
  | register a =>
    cases ha : (register a).accepted with
    | false =>
      obtain ⟨e, he⟩ := dialogue_of_not_accepted ha
      rw [he] at h
      cases h
    | true =>
      rw [dialogue, Service.register, check_of_accepted ha] at h
      cases h
      refine ⟨rfl, rfl, fun x => ?_⟩
      rcases x with e | _ | c
      · exact .inr ⟨_, rfl, .inr ⟨_, rfl⟩⟩
      · exact .inl ⟨ha, by simp, rfl⟩
      · exact .inr ⟨_, rfl, .inr ⟨_, rfl⟩⟩
  | remove id =>
    cases h
    refine ⟨rfl, rfl, fun x => ?_⟩
    rcases x with e | _ | c
    · exact .inr ⟨_, rfl, .inr ⟨_, rfl⟩⟩
    · exact .inr ⟨_, rfl, .inr ⟨_, rfl⟩⟩
    · exact .inl ⟨rfl, by simp, rfl⟩

theorem Stage.ask_cases {o : Operation} {c : Call}
    {k : Except StoreError c.Answer → Dialogue Result} (h : Stage o (.ask c k)) :
    o.accepted = true ∧
      ((c.mutates = false ∧ ∀ x, Unchanged o (k x).quiet) ∨ (o ≠ .list ∧ .ask c k = o.rest)) := by
  generalize hd : Dialogue.ask c k = d at h
  cases h with
  | begun =>
    obtain ⟨ha, hc, hk⟩ := dialogue_asks hd
    exact ⟨ha, .inl ⟨hc, hk⟩⟩
  | looked ha =>
    cases o with
    | list =>
      obtain ⟨-, hc, hk⟩ := dialogue_asks (o := .list) hd
      exact ⟨ha, .inl ⟨hc, hk⟩⟩
    | _ => exact ⟨ha, .inr ⟨by simp, rfl⟩⟩
  | ended x => cases hd

theorem Stage.cases {o : Operation} {d : Dialogue Result} (h : Stage o d) :
    (∃ x, d = .done x) ∨ ∃ c k, d = .ask c k := by
  cases h with
  | begun =>
    cases ha : o.accepted with
    | false =>
      obtain ⟨e, he⟩ := dialogue_of_not_accepted ha
      exact .inl ⟨_, he⟩
    | true => exact .inr (dialogue_of_accepted ha)
  | looked =>
    cases o with
    | _ => exact .inr ⟨_, _, rfl⟩
  | ended x => exact .inl ⟨x, rfl⟩

theorem dialogue_quiet (o : Operation) : o.dialogue.quiet = o.dialogue := by
  obtain ⟨x, hx⟩ | ⟨c, k, hk⟩ := (Stage.begun (o := o)).cases
  · rw [hx, Dialogue.quiet]
  · rw [hk, Dialogue.quiet]

theorem Stage.outcome {o : Operation} {c : Call} {k : Except StoreError c.Answer → Dialogue Result}
    (h : Stage o (.ask c k)) (r : Register) : (Dialogue.ask c k).outcome r = o.run r := by
  have ha := h.ask_cases.1
  generalize hd : Dialogue.ask c k = d at h
  cases h with
  | begun => rfl
  | looked => exact rest_outcome ha r
  | ended x => cases hd

theorem rest_ends {o : Operation} {c : Call} {k : Except StoreError c.Answer → Dialogue Result}
    (h : .ask c k = o.rest) (x : Except StoreError c.Answer) : ∃ y, (k x).quiet = .done y := by
  cases o with
  | list =>
    cases h
    cases x with
    | error e => exact ⟨_, rfl⟩
    | ok cards => exact ⟨_, rfl⟩
  | register a =>
    cases h
    rcases x with (_ | _ | _) | id
    all_goals exact ⟨_, rfl⟩
  | remove id =>
    cases h
    rcases x with e | _ | _
    all_goals exact ⟨_, rfl⟩

theorem Stage.next {o : Operation} {c : Call} {k : Except StoreError c.Answer → Dialogue Result}
    (h : Stage o (.ask c k)) (x : Except StoreError c.Answer) : Stage o (k x).quiet := by
  obtain ⟨-, ⟨-, hk⟩ | ⟨-, hk⟩⟩ := h.ask_cases
  · rcases hk x with ⟨ha, -, hr⟩ | ⟨y, hy, -⟩
    · exact hr ▸ .looked ha
    · exact hy ▸ .ended y
  · obtain ⟨y, hy⟩ := rest_ends hk x
    exact hy ▸ .ended y

theorem Stage.ends_of_mutates {o : Operation} {c : Call}
    {k : Except StoreError c.Answer → Dialogue Result} (h : Stage o (.ask c k))
    (hc : c.mutates = true) (x : Except StoreError c.Answer) : ∃ y, (k x).quiet = .done y := by
  obtain ⟨-, ⟨hn, -⟩ | ⟨-, hk⟩⟩ := h.ask_cases
  · rw [hn] at hc
    cases hc
  · exact rest_ends hk x

theorem Stage.run_of_ends {o : Operation} {c : Call}
    {k : Except StoreError c.Answer → Dialogue Result} (h : Stage o (.ask c k)) {r : Register}
    {y : Result} (hy : (k (Register.answer c r).1).quiet = .done y) :
    o.run r = (y, (Register.answer c r).2) := by
  rw [← h.outcome r, Dialogue.outcome_ask, Dialogue.outcome_of_quiet hy]

end Operation

end CardDesk
