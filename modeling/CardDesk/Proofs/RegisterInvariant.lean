import CardDesk.Store.Register
import Mathlib.Algebra.Group.Int.Defs
import Mathlib.Data.List.Nodup

namespace CardDesk.Register

inductive Reachable : Register → Prop
  | empty : Reachable .empty
  | call {r : Register} (c : Call) (h : Reachable r) : Reachable (answer c r).2

structure WellKept (r : Register) : Prop where
  keyed : ∀ row ∈ r.rows, row.1 = row.2.id
  ascending : r.rows.Pairwise fun a b => a.1 < b.1
  unique : ∀ a ∈ r.rows, ∀ b ∈ r.rows, a.2.application = b.2.application → a = b

theorem mem_place {id : Int32} {c : Card} {rows : List (Int32 × Card)} {row : Int32 × Card}
    (h : rows.Pairwise fun a b => a.1 < b.1) :
    row ∈ place id c rows ↔ row = (id, c) ∨ (row ∈ rows ∧ row.1 ≠ id) := by
  induction rows with
  | nil => simp [place]
  | cons first rows ih =>
    obtain ⟨k, d⟩ := first
    obtain ⟨hk, hrows⟩ := List.pairwise_cons.mp h
    have hne (hid : id ≤ k) (hr : row ∈ rows) : row.1 ≠ id := by
      have := hk row hr
      grind
    simp only [place]
    split
    · rename_i hlt
      rw [List.mem_cons, List.mem_cons]
      constructor
      · rintro (h | rfl | h)
        · exact .inl h
        · exact .inr ⟨.inl rfl, by grind⟩
        · exact .inr ⟨.inr h, hne (by grind) h⟩
      · rintro (h | ⟨h, -⟩)
        · exact .inl h
        · exact .inr h
    split
    · rename_i _ heq
      subst heq
      rw [List.mem_cons, List.mem_cons]
      constructor
      · rintro (h | h)
        · exact .inl h
        · exact .inr ⟨.inr h, hne (by grind) h⟩
      · rintro (h | ⟨rfl | h, hn⟩)
        · exact .inl h
        · exact absurd rfl hn
        · exact .inr h
    · rename_i _ hn
      rw [List.mem_cons, List.mem_cons, ih hrows]
      constructor
      · rintro (rfl | h | ⟨h, hne⟩)
        · exact .inr ⟨.inl rfl, fun h => hn h.symm⟩
        · exact .inl h
        · exact .inr ⟨.inr h, hne⟩
      · rintro (h | ⟨h | h, hne⟩)
        · exact .inr (.inl h)
        · exact .inl h
        · exact .inr (.inr ⟨h, hne⟩)

theorem place_ascending {id : Int32} {c : Card} {rows : List (Int32 × Card)}
    (h : rows.Pairwise fun a b => a.1 < b.1) :
    (place id c rows).Pairwise fun a b => a.1 < b.1 := by
  induction rows with
  | nil => simp [place]
  | cons first rows ih =>
    obtain ⟨k, d⟩ := first
    obtain ⟨hk, hrows⟩ := List.pairwise_cons.mp h
    simp only [place]
    split
    · rename_i hlt
      apply List.Pairwise.cons _ h
      intro row hr
      rcases List.mem_cons.mp hr with rfl | hr
      · exact hlt
      · exact Int32.lt_trans hlt (hk row hr)
    split
    · rename_i _ heq
      exact heq ▸ List.Pairwise.cons hk hrows
    · rename_i hlt hn
      apply List.Pairwise.cons _ (ih hrows)
      intro row hr
      rcases (mem_place hrows).mp hr with rfl | ⟨hr, -⟩
      · grind
      · exact hk row hr

theorem place_last {id : Int32} {c : Card} {rows : List (Int32 × Card)}
    (h : ∀ row ∈ rows, row.1 < id) : place id c rows = rows ++ [(id, c)] := by
  induction rows with
  | nil => rfl
  | cons first rows ih =>
    obtain ⟨k, d⟩ := first
    have hk : k < id := h (k, d) List.mem_cons_self
    have hrows := ih fun row hr => h row (List.mem_cons_of_mem _ hr)
    rw [place, if_neg (by grind), if_neg (by grind), hrows, List.cons_append]

theorem toInt_succ {n : Int32} (h : n.toInt + 1 < 2 ^ 31) : (n + 1).toInt = n.toInt + 1 := by
  have := n.le_toInt
  rw [Int32.toInt_add, Int32.toInt_one, Int.bmod_eq_of_le] <;> omega

theorem any_application_iff (r : Register) (a : Application) :
    (r.cards.any fun c => c.application = a) = true ↔ ∃ c, r.findByIdentity a = some c := by
  rw [findByIdentity, ← Option.isSome_iff_exists, List.find?_isSome, List.any_eq_true]

def Holds (r : Register) (a : Application) : Prop :=
  ∃ c ∈ r.cards, c.application = a

instance (r : Register) (a : Application) : Decidable (r.Holds a) :=
  inferInstanceAs (Decidable (∃ c ∈ r.cards, c.application = a))

theorem findByIdentity_eq_none_iff {r : Register} {a : Application} :
    r.findByIdentity a = none ↔ ¬r.Holds a := by
  simp [findByIdentity, Holds]

theorem Holds.found {r : Register} {a : Application} (h : r.Holds a) :
    ∃ c, r.findByIdentity a = some c := by
  rw [← Option.ne_none_iff_exists', ne_eq, findByIdentity_eq_none_iff, not_not]
  exact h

theorem insert_of_found {r : Register} {a : Application} {c : Card}
    (h : r.findByIdentity a = some c) : r.insert a = (.error .duplicate, r) := by
  rw [insert, if_pos ((any_application_iff r a).mpr ⟨c, h⟩)]

theorem insert_of_not_found {r : Register} {a : Application} (h : r.findByIdentity a = none) :
    r.insert a =
      (.ok (r.lastId + 1),
        ⟨r.lastId + 1, place (r.lastId + 1) (a.card (r.lastId + 1)) r.rows⟩) := by
  rw [insert, if_neg fun hany => ?_]
  obtain ⟨c, hc⟩ := (any_application_iff r a).mp hany
  simp [h] at hc

theorem insert_eq_ok {r r' : Register} {a : Application} {id : Int32}
    (h : r.insert a = (.ok id, r')) :
    r.findByIdentity a = none ∧ id = r.lastId + 1 ∧ r' = ⟨id, place id (a.card id) r.rows⟩ := by
  cases hf : r.findByIdentity a with
  | some c =>
    rw [insert_of_found hf] at h
    cases h
  | none =>
    rw [insert_of_not_found hf] at h
    cases h
    exact ⟨rfl, rfl, rfl⟩

theorem findById_isSome_iff (r : Register) (id : Int32) :
    (∃ c, r.findById id = some c) ↔ (r.rows.any fun row => row.1 = id) = true := by
  rw [findById, ← Option.isSome_iff_exists, List.lookup_isSome_iff]
  simp only [List.any_eq_true, beq_iff_eq, decide_eq_true_eq]
  exact ⟨fun ⟨row, hr, h⟩ => ⟨row, hr, h.symm⟩, fun ⟨row, hr, h⟩ => ⟨row, hr, h.symm⟩⟩

theorem deleteById_of_not_found {r : Register} {id : Int32} (h : r.findById id = none) :
    r.deleteById id = (false, r) := by
  have hn : ¬(r.rows.any fun row => row.1 = id) = true := by
    rw [← findById_isSome_iff, h]
    simp
  have hrows : (r.rows.filter fun row => row.1 ≠ id) = r.rows := by
    apply List.filter_eq_self.mpr
    intro row hr
    simp only [List.any_eq_true, decide_eq_true_eq, not_exists, not_and] at hn
    simpa using hn row hr
  rw [deleteById, hrows, Bool.eq_false_iff.mpr hn]

theorem deleteById_of_found {r : Register} {id : Int32} {c : Card} (h : r.findById id = some c) :
    r.deleteById id = (true, { r with rows := r.rows.filter fun row => row.1 ≠ id }) := by
  rw [deleteById, (findById_isSome_iff r id).mp ⟨c, h⟩]

namespace WellKept

theorem empty : WellKept .empty := by
  constructor <;> simp [Register.empty]

theorem insert {r : Register} (h : WellKept r) (a : Application) : WellKept (r.insert a).2 := by
  cases hf : r.findByIdentity a with
  | some c => rwa [insert_of_found hf]
  | none =>
    rw [insert_of_not_found hf]
    have hnone : ∀ row ∈ r.rows, row.2.application ≠ a := by
      intro row hr
      simpa using List.find?_eq_none.mp hf row.2 (List.mem_map_of_mem hr)
    constructor
    case keyed =>
      intro row hr
      rcases (mem_place h.ascending).mp hr with rfl | ⟨hr, -⟩
      · rfl
      · exact h.keyed row hr
    case ascending => exact place_ascending h.ascending
    case unique =>
      intro row hr row' hr' happ
      rcases (mem_place h.ascending).mp hr with rfl | ⟨hr, -⟩ <;>
        rcases (mem_place h.ascending).mp hr' with rfl | ⟨hr', -⟩
      · rfl
      · exact absurd happ.symm (hnone row' hr')
      · exact absurd happ (hnone row hr)
      · exact h.unique row hr row' hr' happ

theorem mem_cards_iff {r : Register} (h : WellKept r) {c : Card} :
    c ∈ r.cards ↔ (c.id, c) ∈ r.rows := by
  constructor
  · intro hc
    obtain ⟨row, hr, rfl⟩ := List.mem_map.mp hc
    rwa [← h.keyed row hr]
  · exact List.mem_map_of_mem

theorem mem_insert_cards {r r' : Register} (h : WellKept r) {a : Application} {id : Int32}
    (hins : r.insert a = (.ok id, r')) {c : Card} :
    c ∈ r'.cards ↔ c = a.card id ∨ (c ∈ r.cards ∧ c.id ≠ id) := by
  have hr' : WellKept r' := by
    have := h.insert a
    rwa [hins] at this
  obtain ⟨-, -, rfl⟩ := insert_eq_ok hins
  rw [hr'.mem_cards_iff, h.mem_cards_iff, mem_place h.ascending, Prod.mk.injEq]
  constructor
  · rintro (⟨-, hc⟩ | hc)
    · exact .inl hc
    · exact .inr hc
  · rintro (rfl | hc)
    · exact .inl ⟨rfl, rfl⟩
    · exact .inr hc

theorem deleteById {r : Register} (h : WellKept r) (id : Int32) :
    WellKept (r.deleteById id).2 where
  keyed row hr := h.keyed row (List.mem_of_mem_filter hr)
  ascending := h.ascending.filter _
  unique a ha b hb := h.unique a (List.mem_of_mem_filter ha) b (List.mem_of_mem_filter hb)

theorem answer {r : Register} (h : WellKept r) (c : Call) : WellKept (answer c r).2 := by
  cases hc : c.mutates with
  | false => rwa [answer_of_not_mutates hc]
  | true =>
    cases c with
    | insert a => exact h.insert a
    | deleteById id => exact h.deleteById id
    | _ => simp [Call.mutates] at hc

theorem cards_ascending {r : Register} (h : WellKept r) :
    r.cards.Pairwise fun c d => c.id < d.id := by
  apply List.pairwise_map.mpr
  apply h.ascending.imp_of_mem
  intro a b ha hb hlt
  rwa [← h.keyed a ha, ← h.keyed b hb]

theorem ids_nodup {r : Register} (h : WellKept r) : (r.cards.map Card.id).Nodup := by
  apply List.pairwise_map.mpr
  apply h.cards_ascending.imp
  intro c d hlt heq
  exact Int32.lt_irrefl (heq ▸ hlt)

theorem cards_nodup {r : Register} (h : WellKept r) : r.cards.Nodup :=
  h.ids_nodup.of_map

theorem eq_of_id {r : Register} (h : WellKept r) {c d : Card} (hc : c ∈ r.cards)
    (hd : d ∈ r.cards) (hid : c.id = d.id) : c = d :=
  List.inj_on_of_nodup_map h.ids_nodup hc hd hid

theorem eq_of_application {r : Register} (h : WellKept r) {c d : Card} (hc : c ∈ r.cards)
    (hd : d ∈ r.cards) (happ : c.application = d.application) : c = d :=
  congrArg Prod.snd
    (h.unique _ (h.mem_cards_iff.mp hc) _ (h.mem_cards_iff.mp hd) happ)

theorem cards_distinct {r : Register} (h : WellKept r) :
    r.cards.Pairwise fun c d => c.application ≠ d.application :=
  h.cards_nodup.pairwise_of_forall_ne fun _ hc _ hd hne happ =>
    hne (h.eq_of_application hc hd happ)

theorem countP_le_one {r : Register} (h : WellKept r) (a : Application) :
    (r.cards.countP fun c => c.application = a) ≤ 1 := by
  rw [List.countP_eq_length_filter]
  have hne := h.cards_distinct.filter fun c => c.application = a
  have happ : ∀ c ∈ r.cards.filter fun c => c.application = a, c.application = a := by
    intro c hc
    simpa using (List.mem_filter.mp hc).2
  generalize (r.cards.filter fun c => c.application = a) = cs at hne happ
  rcases cs with _ | ⟨c, _ | ⟨d, cs⟩⟩
  · exact Nat.zero_le 1
  · exact Nat.le_refl 1
  · have hcd := (List.pairwise_cons.mp hne).1 d List.mem_cons_self
    exact absurd ((happ c (by simp)).trans (happ d (by simp)).symm) hcd

theorem findById_iff {r : Register} (h : WellKept r) {id : Int32} {c : Card} :
    r.findById id = some c ↔ c ∈ r.cards ∧ c.id = id := by
  have hsound {d : Card} (hd : r.findById id = some d) : d ∈ r.cards ∧ d.id = id := by
    obtain ⟨before, after, hrows, -⟩ := List.lookup_eq_some_iff.mp hd
    have hrow : (id, d) ∈ r.rows := by simp [hrows]
    exact ⟨List.mem_map_of_mem hrow, (h.keyed _ hrow).symm⟩
  refine ⟨hsound, ?_⟩
  rintro ⟨hc, rfl⟩
  have hany : (r.rows.any fun row => row.1 = c.id) = true :=
    List.any_eq_true.mpr ⟨_, h.mem_cards_iff.mp hc, by simp⟩
  obtain ⟨d, hd⟩ := (findById_isSome_iff r c.id).mpr hany
  rw [hd, h.eq_of_id (hsound hd).1 hc (hsound hd).2]

theorem findByIdentity_iff {r : Register} (h : WellKept r) {a : Application} {c : Card} :
    r.findByIdentity a = some c ↔ c ∈ r.cards ∧ c.application = a := by
  have hsound {d : Card} (hd : r.findByIdentity a = some d) : d ∈ r.cards ∧ d.application = a :=
    ⟨List.mem_of_find?_eq_some hd, by simpa using List.find?_some hd⟩
  refine ⟨hsound, ?_⟩
  rintro ⟨hc, rfl⟩
  have hany : (r.cards.any fun d => d.application = c.application) = true :=
    List.any_eq_true.mpr ⟨c, hc, by simp⟩
  obtain ⟨d, hd⟩ := (any_application_iff r c.application).mp hany
  rw [hd, h.eq_of_application (hsound hd).1 hc (hsound hd).2]

theorem deleteById_cards {r : Register} (h : WellKept r) (id : Int32) :
    (r.deleteById id).2.cards = r.cards.filter fun c => c.id ≠ id := by
  simp only [Register.deleteById, Register.cards, List.filter_map]
  congr 1
  apply List.filter_congr
  intro row hr
  rw [h.keyed row hr]
  rfl

theorem deleteById_cards_of_found {r : Register} (h : WellKept r) {id : Int32} {c : Card}
    (hc : r.findById id = some c) : (r.deleteById id).2.cards = r.cards.erase c := by
  obtain ⟨hmem, rfl⟩ := h.findById_iff.mp hc
  rw [h.deleteById_cards, h.cards_nodup.erase_eq_filter]
  apply List.filter_congr
  intro d hd
  rw [Bool.eq_iff_iff, decide_eq_true_eq, bne_iff_ne]
  exact ⟨fun hid heq => hid (heq ▸ rfl), fun hne hid => hne (h.eq_of_id hd hmem hid)⟩

theorem cards_answer {r : Register} (h : WellKept r) {q : Application → Prop} {c : Call}
    (hc : ∀ a, c = .insert a → q a) (hr : ∀ d ∈ r.cards, q d.application) :
    ∀ d ∈ (Register.answer c r).2.cards, q d.application := by
  intro d hd
  cases c with
  | insert a =>
    rw [Register.answer] at hd
    cases hf : r.findByIdentity a with
    | some e =>
      rw [insert_of_found hf] at hd
      exact hr d hd
    | none =>
      rw [insert_of_not_found hf] at hd
      rcases (h.mem_insert_cards (insert_of_not_found hf)).mp hd with rfl | ⟨hd, -⟩
      · exact hc a rfl
      · exact hr d hd
  | deleteById id =>
    rw [Register.answer, h.deleteById_cards] at hd
    exact hr d (List.mem_of_mem_filter hd)
  | _ => exact hr d hd

end WellKept

theorem Reachable.wellKept {r : Register} (h : Reachable r) : WellKept r := by
  induction h with
  | empty => exact .empty
  | call c _ ih => exact ih.answer c

/-- What the calls say of the register, and what they make of it, in terms of the list of all
cards. -/
structure AnswersAgree (r : Register) : Prop where
  findById (id : Int32) (c : Card) :
    (answer (.findById id) r).1 = .ok (some c) ↔ c ∈ r.cards ∧ c.id = id
  findByIdentity (name department : String) (category : Category) (c : Card) :
    (answer (.findByIdentity name department category) r).1 = .ok (some c) ↔
      ∀ d, d ∈ r.cards ∧ d.name = name ∧ d.department = department ∧ d.category = category ↔ d = c
  duplicate (a : Application) :
    (answer (.insert a) r).1 = .error .duplicate ↔
      ∃ c, (answer (.findByIdentity a.name a.department a.category) r).1 = .ok (some c)
  duplicate_unchanged (a : Application) :
    (answer (.insert a) r).1 = .error .duplicate → (answer (.insert a) r).2 = r
  deleted (id : Int32) :
    (answer (.deleteById id) r).1 = .ok true ↔
      ∃ c, (answer (.findById id) r).1 = .ok (some c)
  deleted_cards (id : Int32) (c : Card) :
    (answer (.findById id) r).1 = .ok (some c) →
      (answer (.deleteById id) r).2.cards = r.cards.erase c
  not_deleted (id : Int32) :
    (answer (.deleteById id) r).1 ≠ .ok true → answer (.deleteById id) r = (.ok false, r)

theorem WellKept.answersAgree {r : Register} (h : WellKept r) : AnswersAgree r where
  findById id c := by
    rw [← h.findById_iff]
    simp [Register.answer]
  findByIdentity name department category c := by
    have happ (d : Card) : (d.name = name ∧ d.department = department ∧ d.category = category) ↔
        d.application = ⟨name, department, category⟩ := by
      simp [Card.application]
    simp only [Register.answer, Except.ok.injEq, h.findByIdentity_iff, happ]
    constructor
    · rintro ⟨hc, happ⟩ d
      constructor
      · rintro ⟨hd, hd'⟩
        exact h.eq_of_application hd hc (hd'.trans happ.symm)
      · rintro rfl
        exact ⟨hc, happ⟩
    · intro hall
      exact (hall c).mpr rfl
  duplicate a := by
    cases hf : r.findByIdentity a with
    | some c => simp [Register.answer, insert_of_found hf, hf]
    | none => simp [Register.answer, insert_of_not_found hf, hf]
  duplicate_unchanged a := by
    cases hf : r.findByIdentity a with
    | some c => simp [Register.answer, insert_of_found hf]
    | none => simp [Register.answer, insert_of_not_found hf]
  deleted id := by
    cases hf : r.findById id with
    | some c => simp [Register.answer, deleteById_of_found hf, hf]
    | none => simp [Register.answer, deleteById_of_not_found hf, hf]
  deleted_cards id c hc := by
    simp only [Register.answer, Except.ok.injEq] at hc
    exact h.deleteById_cards_of_found hc
  not_deleted id hid := by
    cases hf : r.findById id with
    | some c => simp [Register.answer, deleteById_of_found hf] at hid
    | none => simp [Register.answer, deleteById_of_not_found hf]

/-- The list of all cards is in ascending order and holds no identity twice, and all other answers
agree with it. -/
theorem reachable_answers {r : Register} (h : Reachable r) :
    (∀ row ∈ r.rows, row.1 = row.2.id) ∧
      (r.cards.Pairwise fun c d =>
        ¬(c.name = d.name ∧ c.department = d.department ∧ c.category = d.category)) ∧
      answer .findAll r = (.ok r.cards, r) ∧ (r.cards.Pairwise fun c d => c.id < d.id) ∧
      AnswersAgree r := by
  have hr := h.wellKept
  refine ⟨hr.keyed, ?_, rfl, hr.cards_ascending, hr.answersAgree⟩
  apply hr.cards_distinct.imp
  rintro c d hne ⟨hn, hd, hc⟩
  exact hne (by rw [Card.application, Card.application, hn, hd, hc])

theorem reachable_answers_after_removal :
    let r : Register := ⟨2, [(2, ⟨2, " Bob", "EE", .teacher⟩)]⟩
    Reachable r ∧ (r.cards.Pairwise fun c d => c.id < d.id) ∧ AnswersAgree r := by
  intro r
  have h : Reachable r :=
    ((Reachable.empty.call (.insert ⟨"Alice", "CS", .student⟩)).call
      (.insert ⟨" Bob", "EE", .teacher⟩)).call (.deleteById 1)
  exact ⟨h, (reachable_answers h).2.2.2.1, (reachable_answers h).2.2.2.2⟩

end CardDesk.Register
