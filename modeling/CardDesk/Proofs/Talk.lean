import CardDesk.Service

namespace CardDesk

variable {σ α β : Type}

abbrev Talk := (c : Call) × Except StoreError c.Answer

namespace Talk

def inserts : Talk → Bool
  | ⟨.insert _, .ok _⟩ => true
  | _ => false

def changes : Talk → Bool
  | ⟨.insert _, .ok _⟩ => true
  | ⟨.deleteById _, .ok true⟩ => true
  | _ => false

def failure? : Talk → Option StoreError
  | ⟨.insert _, .error .duplicate⟩ => none
  | ⟨_, .error e⟩ => some e
  | ⟨_, .ok _⟩ => none

theorem failure?_eq_some_iff {t : Talk} {e : StoreError} :
    t.failure? = some e ↔ t.2 = .error e ∧ (t.1.method = .insert → e ≠ .duplicate) := by
  obtain ⟨c, x⟩ := t
  cases c with
  | insert a => rcases x with (_ | _ | _) | id <;> simp [failure?, Call.method] <;> grind
  | _ => cases x <;> simp [failure?, Call.method]

theorem failure?_ok {c : Call} (x : c.Answer) : failure? ⟨c, .ok x⟩ = none := by
  cases c <;> rfl

end Talk

namespace Dialogue

def Asks (p : Call → Prop) : Dialogue α → Prop
  | done _ => True
  | note _ d => d.Asks p
  | ask c k => p c ∧ ∀ x, (k x).Asks p

theorem Asks.bind {p : Call → Prop} {d : Dialogue α} {f : α → Dialogue β} (h : d.Asks p)
    (hf : ∀ a, (f a).Asks p) : (d.bind f).Asks p := by
  induction d with
  | done a => exact hf a
  | note r d ih => exact ih h
  | ask c k ih => exact ⟨h.1, fun x => ih x (h.2 x)⟩

theorem Asks.mono {p p' : Call → Prop} {d : Dialogue α} (h : d.Asks p) (hp : ∀ c, p c → p' c) :
    d.Asks p' := by
  induction d with
  | done a => trivial
  | note r d ih => exact ih h
  | ask c k ih => exact ⟨hp c h.1, fun x => ih x (h.2 x)⟩

def inOrder : List (Dialogue α) → Dialogue (List α)
  | [] => done []
  | d :: ds => d.bind fun a => (inOrder ds).bind fun as => done (a :: as)

theorem Asks.inOrder {p : Call → Prop} {ds : List (Dialogue α)} (h : ∀ d ∈ ds, d.Asks p) :
    (inOrder ds).Asks p := by
  induction ds with
  | nil => trivial
  | cons d ds ih =>
    apply (h d List.mem_cons_self).bind
    intro a
    apply (ih fun d hd => h d (List.mem_cons_of_mem _ hd)).bind
    intro as
    trivial

def talks (store : Store σ) : Dialogue α → σ → List Talk
  | done _, _ => []
  | note _ d, s => d.talks store s
  | ask c k, s => ⟨c, (store c s).1⟩ :: (k (store c s).1).talks store (store c s).2

end Dialogue

namespace Service

variable {p : Call → Prop}

theorem list_asks (h : p .findAll) : list.Asks p := by
  refine ⟨h, fun x => ?_⟩
  cases x <;> trivial

theorem register_asks {a : Application}
    (hlook : p (.findByIdentity a.name a.department a.category)) (hinsert : p (.insert a)) :
    (register a).Asks p := by
  rw [register]
  cases a.check with
  | error e => trivial
  | ok u =>
    refine ⟨hlook, fun x => ?_⟩
    rcases x with e | _ | c
    · trivial
    · refine ⟨hinsert, fun x => ?_⟩
      rcases x with (_ | _ | _) | id <;> trivial
    · trivial

theorem remove_asks {id : Int32} (hlook : p (.findById id)) (hdelete : p (.deleteById id)) :
    (remove id).Asks p := by
  refine ⟨hlook, fun x => ?_⟩
  rcases x with e | _ | c
  · trivial
  · trivial
  · refine ⟨hdelete, fun x => ?_⟩
    rcases x with e | _ | _ <;> trivial

end Service

end CardDesk
