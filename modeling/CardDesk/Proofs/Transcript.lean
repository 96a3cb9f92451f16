import CardDesk.Proofs.Talk

namespace CardDesk

theorem Application.exists_emptyFields {a : Application} {e : Refusal} (h : a.check = .error e) :
    ∃ fields, e = .emptyFields fields := by
  rw [check] at h
  split at h
  · cases h
  · cases h
    exact ⟨_, rfl⟩

namespace Service

variable {σ : Type}

abbrev lookupOf (a : Application) : Call :=
  .findByIdentity a.name a.department a.category

inductive Applied (a : Application) : List Talk → Except Refusal Card → Prop
  | invalid {e : Refusal} (h : a.check = .error e) : Applied a [] (.error e)
  | lookupFailed (h : a.check = .ok ()) (e : StoreError) :
    Applied a [⟨lookupOf a, .error e⟩] (.error (.storeFailed e))
  | found (h : a.check = .ok ()) (c : Card) :
    Applied a [⟨lookupOf a, .ok (some c)⟩] (.error .alreadyExists)
  | overtaken (h : a.check = .ok ()) :
    Applied a [⟨lookupOf a, .ok none⟩, ⟨.insert a, .error .duplicate⟩] (.error .alreadyExists)
  | insertFailed (h : a.check = .ok ()) {e : StoreError} (he : e ≠ .duplicate) :
    Applied a [⟨lookupOf a, .ok none⟩, ⟨.insert a, .error e⟩] (.error (.storeFailed e))
  | inserted (h : a.check = .ok ()) (id : Int32) :
    Applied a [⟨lookupOf a, .ok none⟩, ⟨.insert a, .ok id⟩] (.ok (a.card id))

inductive Withdrawn (id : Int32) : List Talk → Except Refusal Unit → Prop
  | lookupFailed (e : StoreError) :
    Withdrawn id [⟨.findById id, .error e⟩] (.error (.storeFailed e))
  | missing : Withdrawn id [⟨.findById id, .ok none⟩] (.error (.notFound id))
  | deleteFailed (c : Card) (e : StoreError) :
    Withdrawn id [⟨.findById id, .ok (some c)⟩, ⟨.deleteById id, .error e⟩]
      (.error (.storeFailed e))
  | overtaken (c : Card) :
    Withdrawn id [⟨.findById id, .ok (some c)⟩, ⟨.deleteById id, .ok false⟩] (.error (.notFound id))
  | deleted (c : Card) :
    Withdrawn id [⟨.findById id, .ok (some c)⟩, ⟨.deleteById id, .ok true⟩] (.ok ())

theorem insert_applied {a : Application} (h : a.check = .ok ()) (store : Store σ) (s : σ) :
    Applied a (⟨lookupOf a, .ok none⟩ :: (insert a).talks store s) ((insert a).run store s).1 := by
  simp only [insert, Dialogue.talks, Dialogue.run]
  rcases (store (.insert a) s).1 with (e | _ | t) | id
  · exact .insertFailed h (by simp)
  · exact .overtaken h
  · exact .insertFailed h (by simp)
  · exact .inserted h id

theorem register_applied (a : Application) (store : Store σ) (s : σ) :
    Applied a ((register a).talks store s) ((register a).run store s).1 := by
  rw [register]
  cases h : a.check with
  | error e => exact .invalid h
  | ok u =>
    simp only [Dialogue.talks, Dialogue.run]
    rcases (store (lookupOf a) s).1 with e | _ | c
    · exact .lookupFailed h e
    · exact insert_applied h store _
    · exact .found h c

theorem remove_withdrawn (id : Int32) (store : Store σ) (s : σ) :
    Withdrawn id ((remove id).talks store s) ((remove id).run store s).1 := by
  simp only [remove, Dialogue.talks, Dialogue.run]
  rcases (store (.findById id) s).1 with e | _ | c
  · exact .lookupFailed e
  · exact .missing
  · simp only [delete, Dialogue.talks, Dialogue.run]
    rcases (store (.deleteById id) _).1 with e | _ | _
    · exact .deleteFailed c e
    · exact .overtaken c
    · exact .deleted c

/-- What the calls put for an application and its result tell about each other. -/
structure ApplicationTold (a : Application) (t : List Talk) (x : Except Refusal Card) : Prop where
  silent_iff : t = [] ↔ a.check ≠ .ok ()
  calls : t ≠ [] →
    t.map Sigma.fst = [lookupOf a] ∨ t.map Sigma.fst = [lookupOf a, .insert a]
  inserts_iff : .insert a ∈ t.map Sigma.fst ↔ ⟨lookupOf a, .ok none⟩ ∈ t
  ok_iff : ∀ c, x = .ok c ↔ ∃ id, ⟨.insert a, .ok id⟩ ∈ t ∧
    c.id = id ∧ c.name = a.name ∧ c.department = a.department ∧ c.category = a.category
  alreadyExists_iff : x = .error .alreadyExists ↔
    (∃ c, ⟨lookupOf a, .ok (some c)⟩ ∈ t) ∨ ⟨.insert a, .error .duplicate⟩ ∈ t
  storeFailed_iff : ∀ e, x = .error (.storeFailed e) ↔
    ⟨lookupOf a, .error e⟩ ∈ t ∨ ⟨.insert a, .error e⟩ ∈ t ∧ e ≠ .duplicate
  invalid_iff : ∀ fields, x = .error (.emptyFields fields) ↔ a.check = .error (.emptyFields fields)
  nothing_else : ∀ e, x = .error e →
    e = .alreadyExists ∨ (∃ cause, e = .storeFailed cause) ∨ ∃ fields, e = .emptyFields fields

structure RemovalTold (id : Int32) (t : List Talk) (x : Except Refusal Unit) : Prop where
  calls : t.map Sigma.fst = [.findById id] ∨ t.map Sigma.fst = [.findById id, .deleteById id]
  deletes_iff : .deleteById id ∈ t.map Sigma.fst ↔ ∃ c, ⟨.findById id, .ok (some c)⟩ ∈ t
  ok_iff : x = .ok () ↔ ⟨.deleteById id, .ok true⟩ ∈ t
  notFound_iff : x = .error (.notFound id) ↔
    ⟨.findById id, .ok none⟩ ∈ t ∨ ⟨.deleteById id, .ok false⟩ ∈ t
  storeFailed_iff : ∀ e, x = .error (.storeFailed e) ↔
    ⟨.findById id, .error e⟩ ∈ t ∨ ⟨.deleteById id, .error e⟩ ∈ t
  nothing_else : ∀ e, x = .error e → e = .notFound id ∨ ∃ cause, e = .storeFailed cause

theorem eq_card_iff {a : Application} {id : Int32} {c : Card} :
    a.card id = c ↔
      c.id = id ∧ c.name = a.name ∧ c.department = a.department ∧ c.category = a.category := by
  obtain ⟨id', name, department, category⟩ := c
  simp [Application.card, eq_comm]

theorem Applied.told {a : Application} {t : List Talk} {x : Except Refusal Card}
    (h : Applied a t x) : ApplicationTold a t x := by
  cases h with
  | @invalid e h =>
    obtain ⟨fields, rfl⟩ := Application.exists_emptyFields h
    constructor <;> simp [h]
  | lookupFailed h e => constructor <;> simp [h, @eq_comm _ e]
  | found h c => constructor <;> simp [h]
  | overtaken h => constructor <;> simp [h]
  | @insertFailed h e he => constructor <;> simp [h, he, he.symm, @eq_comm _ e]
  | inserted h id => constructor <;> simp [h, eq_card_iff]

theorem Withdrawn.told {id : Int32} {t : List Talk} {x : Except Refusal Unit}
    (h : Withdrawn id t x) : RemovalTold id t x := by
  cases h with
  | lookupFailed e => constructor <;> simp [@eq_comm _ e]
  | missing => constructor <;> simp
  | deleteFailed c e => constructor <;> simp [@eq_comm _ e]
  | overtaken c => constructor <;> simp
  | deleted c => constructor <;> simp

/-- Whatever a store answers, the result of an operation and the calls put for it follow from each
other: no call is put twice, and none behind an answer that is a failure. -/
theorem outcome_tells_talk (store : Store σ) (s : σ) :
    (∀ a, ApplicationTold a ((register a).talks store s) ((register a).run store s).1) ∧
      ∀ id, RemovalTold id ((remove id).talks store s) ((remove id).run store s).1 :=
  ⟨fun a => (register_applied a store s).told, fun id => (remove_withdrawn id store s).told⟩

theorem outcome_tells_talk_of_card_seven :
    let store : Store Unit := fun
      | .findByIdentity .. => fun s => (.ok none, s)
      | .insert _ => fun s => (.ok 7, s)
      | .findById _ => fun s => (.ok (some ⟨2, "Bob", "EE", .teacher⟩), s)
      | .deleteById id => fun s => (.ok (id = 7), s)
      | _ => fun s => (.error .duplicate, s)
    let a : Application := ⟨"张三", "CS", .student⟩
    let nameless : Application := ⟨"", "CS", .student⟩
    let applied : List Talk :=
      [⟨.findByIdentity "张三" "CS" .student, .ok none⟩, ⟨.insert a, .ok (7 : Int32)⟩]
    let removed (id : Int32) (found : Bool) : List Talk :=
      [⟨.findById id, .ok (some ⟨2, "Bob", "EE", .teacher⟩)⟩, ⟨.deleteById id, .ok found⟩]
    ((register a).talks store () = applied ∧
        ((register a).run store ()).1 = .ok ⟨7, "张三", "CS", .student⟩ ∧
        ApplicationTold a applied (.ok ⟨7, "张三", "CS", .student⟩)) ∧
      ((register nameless).talks store () = [] ∧
        ApplicationTold nameless [] (.error (.emptyFields [.name]))) ∧
      ((remove 7).talks store () = removed 7 true ∧ RemovalTold 7 (removed 7 true) (.ok ())) ∧
      (remove 8).talks store () = removed 8 false ∧
        RemovalTold 8 (removed 8 false) (.error (.notFound 8)) := by
  intro store a nameless applied removed
  obtain ⟨hregister, hremove⟩ := outcome_tells_talk store ()
  exact ⟨⟨rfl, rfl, hregister a⟩, ⟨rfl, hregister nameless⟩, ⟨rfl, hremove 7⟩, rfl, hremove 8⟩

end Service

end CardDesk
