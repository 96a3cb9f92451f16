import CardDesk.Proofs.Crowd
import CardDesk.Proofs.Transcript
import Mathlib.Data.List.TakeWhile

namespace CardDesk

theorem Text.trim_eq_empty_iff {s : String} :
    trim s = "" ↔ ∀ c ∈ s.toList, isBlank c = true := by
  have hright (cs : List Char) : trimRight cs = [] ↔ ∀ c ∈ cs, isBlank c = true := by
    simp [trimRight, List.dropWhile_eq_nil_iff]
  have hempty : trim s = "" ↔ trimRight (trimLeft s.toList) = [] := by
    rw [trim, ← String.toList_inj, String.toList_ofList]
    rfl
  rw [hempty, hright]
  constructor
  · intro hall
    apply List.dropWhile_eq_nil_iff.mp
    cases hleft : trimLeft s.toList with
    | nil => exact hleft
    | cons c r =>
      have hc := @head_dropWhile isBlank s.toList c (by rw [← trimLeft, hleft, List.head?_cons])
      rw [hall c (by simp [hleft])] at hc
      cases hc
  · intro hall
    rw [trimLeft, List.dropWhile_eq_nil_iff.mpr hall]
    simp

namespace Application

def Blank (a : Application) : Prop :=
  (∀ c ∈ a.name.toList, Text.isBlank c = true) ∨
    ∀ c ∈ a.department.toList, Text.isBlank c = true

def Trimmed (a : Application) : Prop :=
  Text.Trimmed a.name ∧ Text.Trimmed a.department

theorem Trimmed.blank_iff {a : Application} (h : a.Trimmed) :
    a.Blank ↔ a.name = "" ∨ a.department = "" := by
  rw [Blank, ← Text.trim_eq_empty_iff, ← Text.trim_eq_empty_iff, h.1.trim_eq, h.2.trim_eq]

theorem trimmed_trimmed (name department : String) (category : Category) :
    (trimmed name department category).Trimmed :=
  ⟨Text.trimmed_trim name, Text.trimmed_trim department⟩

theorem blank_trimmed_iff (name department : String) (category : Category) :
    (trimmed name department category).Blank ↔ Blank ⟨name, department, category⟩ := by
  rw [(trimmed_trimmed name department category).blank_iff, Blank, ← Text.trim_eq_empty_iff,
    ← Text.trim_eq_empty_iff, trimmed]

theorem check_eq_error_iff {a : Application} {fields : List Field} :
    a.check = .error (.emptyFields fields) ↔
      fields = a.emptyFields ∧ (a.name = "" ∨ a.department = "") := by
  by_cases hn : a.name = "" <;> by_cases hd : a.department = "" <;>
    simp [check, emptyFields, hn, hd, eq_comm]

end Application

namespace Service

variable {σ : Type}

theorem register_silent_iff (store : Store σ) (a : Application) (s : σ) :
    (register a).talks store s = [] ↔ a.name = "" ∨ a.department = "" := by
  rw [(register_applied a store s).told.silent_iff, ne_eq, Application.check_eq_ok_iff]
  grind

theorem register_invalid_iff (store : Store σ) (a : Application) (s : σ)
    {fields : List Application.Field} :
    ((register a).run store s).1 = .error (.emptyFields fields) ↔
      fields = a.emptyFields ∧ (a.name = "" ∨ a.department = "") := by
  rw [(register_applied a store s).told.invalid_iff, Application.check_eq_error_iff]

theorem register_asks_filled (a : Application) :
    (register a).Asks fun c => ∀ b, c = .insert b → b = a ∧ b.name ≠ "" ∧ b.department ≠ "" := by
  cases hc : a.check with
  | error e =>
    rw [register, hc]
    trivial
  | ok u =>
    apply register_asks
    · simp
    · rintro _ ⟨⟩
      exact ⟨rfl, Application.check_eq_ok_iff.mp hc⟩

end Service

namespace Operation

theorem asks_filled (o : Operation) :
    o.dialogue.Asks fun c =>
      ∀ a, c = .insert a → o = .register a ∧ a.name ≠ "" ∧ a.department ≠ "" := by
  cases o with
  | list => exact (Service.list_asks nofun).bind fun _ => trivial
  | register a =>
    refine ((Service.register_asks_filled a).mono fun c hc b hb => ?_).bind fun _ => trivial
    obtain ⟨rfl, hfilled⟩ := hc b hb
    exact ⟨rfl, hfilled⟩
  | remove id => exact (Service.remove_asks nofun nofun).bind fun _ => trivial

end Operation

namespace Crowd

variable {ι : Type}

def Sought (ops : ι → Operation) (a : Application) : Prop :=
  (∃ i, ops i = .register a) ∧ a.name ≠ "" ∧ a.department ≠ ""

variable [DecidableEq ι]

theorem stored_sought (ops : ι → Operation) (script : Script) (moves : List (Move ι)) :
    ∀ c ∈ ((enter ops (.fresh script)).run moves).world.register.cards,
      Sought ops c.application := by
  have hclients (i : ι) : ((enter ops (.fresh script)).client i).Asks
      fun c => ∀ a, c = .insert a → Sought ops a := by
    rw [enter_client]
    refine (ops i).asks_filled.mono fun c hc a ha => ?_
    obtain ⟨hi, hfilled⟩ := hc a ha
    exact ⟨⟨i, hi⟩, hfilled⟩
  have hkeep : ∀ c r, (∀ a, c = .insert a → Sought ops a) →
      (r.WellKept ∧ ∀ d ∈ r.cards, Sought ops d.application) →
      (Register.answer c r).2.WellKept ∧
        ∀ d ∈ (Register.answer c r).2.cards, Sought ops d.application := by
    rintro c r hc ⟨hr, hcards⟩
    exact ⟨hr.answer c, hr.cards_answer hc hcards⟩
  exact (run_keeps_register hkeep hclients ⟨.empty, nofun⟩ moves).2

/-- An application is refused unseen just when a field is empty, whatever the store; whatever goes
wrong and whoever leaves, each card has been applied for with no empty field. So it takes the
trimming of the applications to keep blank cards out. -/
theorem blanks_kept_out_by_trimming {σ : Type} (store : Store σ) (s : σ) (ops : ι → Operation)
    (script : Script) (moves : List (Move ι)) :
    (∀ a, ((Service.register a).talks store s = [] ↔ a.name = "" ∨ a.department = "") ∧
      ∀ fields, ((Service.register a).run store s).1 = .error (.emptyFields fields) ↔
        fields = a.emptyFields ∧ (a.name = "" ∨ a.department = "")) ∧
    (∀ a : Application, a.Trimmed → ((Service.register a).talks store s = [] ↔ a.Blank)) ∧
    (∀ c ∈ ((enter ops (.fresh script)).run moves).world.register.cards,
      (∃ i, ops i = .register c.application) ∧ c.name ≠ "" ∧ c.department ≠ "") ∧
    ((∀ i a, ops i = .register a → a.Trimmed) →
      ∀ c ∈ ((enter ops (.fresh script)).run moves).world.register.cards,
        ¬c.application.Blank) := by
  have hstored := stored_sought ops script moves
  refine ⟨fun a => ⟨Service.register_silent_iff store a s, fun _ =>
    Service.register_invalid_iff store a s⟩, ?_, hstored, ?_⟩
  · intro a ha
    rw [Service.register_silent_iff, ha.blank_iff]
  · intro htrimmed c hc
    obtain ⟨⟨i, hi⟩, hname, hdepartment⟩ := hstored c hc
    rw [(htrimmed i _ hi).blank_iff]
    exact not_or.mpr ⟨hname, hdepartment⟩

theorem blanks_kept_out_of_one_card :
    let ops : Unit → Operation := fun _ =>
      .register (.trimmed " Alice\u3000" "CS" .teacher)
    let r := ((enter ops (.fresh .none)).run [.turn (), .turn ()]).world.register
    (∀ i a, ops i = .register a → a.Trimmed) ∧ r.cards = [⟨1, "Alice", "CS", .teacher⟩] ∧
      ∀ c ∈ r.cards, ¬c.application.Blank := by
  intro ops r
  have htrimmed : ∀ i a, ops i = .register a → a.Trimmed := by
    rintro - _ ⟨⟩
    exact Application.trimmed_trimmed ..
  have hkept := (blanks_kept_out_by_trimming Register.answer .empty ops .none
    [.turn (), .turn ()]).2.2.2 htrimmed
  exact ⟨htrimmed, by decide, hkept⟩

/-- An application that has not been trimmed: its name is blank and not empty, and there is a card
of it in the end. -/
theorem blank_card_stored :
    Application.Blank ⟨"  ", "CS", .student⟩ ∧ Text.trim "  " = "" ∧
      (Service.register ⟨"  ", "CS", .student⟩).talks Register.answer .empty =
        [⟨.findByIdentity "  " "CS" .student, .ok none⟩,
          ⟨.insert ⟨"  ", "CS", .student⟩, .ok 1⟩] ∧
      ((enter (fun _ : Unit => .register ⟨"  ", "CS", .student⟩) (.fresh .none)).run
        [.turn (), .turn ()]).world.register.cards = [⟨1, "  ", "CS", .student⟩] := by
  have hname : Text.trim "  " = "" := by decide
  exact ⟨.inl (Text.trim_eq_empty_iff.mp hname), hname, rfl, by decide⟩

end Crowd

end CardDesk
