import CardDesk.Proofs.History
import CardDesk.Proofs.Linearizability
import Mathlib.Data.Fintype.Card
import Mathlib.Tactic.FinCases

/-!
Registrations and removals that have no card in common do not get into each other's way: in
whatever order their calls come, all of them go through, and nothing depends on that order but which
new card gets which of the new ids.
-/

namespace CardDesk

inductive Dialogue.EndsWithin {α : Type} : Nat → Dialogue α → Prop
  | done (n : Nat) (a : α) : EndsWithin n (.done a)
  | ask {n : Nat} {c : Call} {k : Except StoreError c.Answer → Dialogue α}
      (h : ∀ x, EndsWithin n (k x).quiet) : EndsWithin (n + 1) (.ask c k)

namespace Operation

theorem rest_endsWithin {o : Operation} (h : o.accepted = true) : o.rest.EndsWithin 1 := by
  obtain ⟨x, hx⟩ | ⟨c, k, hk⟩ := (Stage.looked h).cases
  · exact hx ▸ .done 1 x
  · rw [hk]
    apply Dialogue.EndsWithin.ask
    intro x
    obtain ⟨y, hy⟩ := rest_ends hk.symm x
    exact hy ▸ .done 0 y

theorem dialogue_endsWithin (o : Operation) : o.dialogue.EndsWithin 2 := by
  obtain ⟨x, hx⟩ | ⟨c, k, hk⟩ := (Stage.begun (o := o)).cases
  · exact hx ▸ .done 2 x
  · rw [hk]
    apply Dialogue.EndsWithin.ask
    intro x
    obtain ⟨ha, -, hnext⟩ := dialogue_asks hk.symm
    rcases hnext x with ⟨-, -, hr⟩ | ⟨y, hy, -⟩
    · exact hr ▸ rest_endsWithin ha
    · exact hy ▸ .done 1 y

theorem run_register {a : Application} {r : Register} (hc : a.check = .ok ()) (hn : ¬r.Holds a) :
    (register a).run r = (.ok (.card (a.card (r.lastId + 1))), (r.insert a).2) := by
  rw [run, dialogue, Dialogue.outcome_bind,
    Service.register_outcome hc (Register.findByIdentity_eq_none_iff.mpr hn)]
  rfl

theorem run_register_of_held {a : Application} {r : Register} (hc : a.check = .ok ())
    (h : r.Holds a) : (register a).run r = (.error .alreadyExists, r) := by
  obtain ⟨c, hf⟩ := h.found
  rw [run, dialogue, Dialogue.outcome_bind, Service.register_outcome_of_found hc hf]
  rfl

theorem run_remove {id : Int32} {r : Register} {c : Card} (h : r.findById id = some c) :
    (remove id).run r = (.ok .nothing, (r.deleteById id).2) := by
  rw [run, dialogue, Dialogue.outcome_bind, Service.remove_outcome h]
  rfl

end Operation

namespace Crowd

open Operation

variable {ι : Type}

/-- Registrations of valid applications, no two of one identity, and removals of cards that are in
the register, no two of one card. No identity is registered that is removed. -/
structure Independent (ops : ι → Operation) (r : Register) : Prop where
  changing : ∀ i, ops i ≠ .list
  valid : ∀ i a, ops i = .register a → a.check = .ok ()
  registered : ∀ i j a, ops i = .register a → ops j = .register a → i = j
  removed : ∀ i j id, ops i = .remove id → ops j = .remove id → i = j
  present : ∀ i id, ops i = .remove id → ∃ c ∈ r.cards, c.id = id
  apart : ∀ i j a, ops i = .register a → ∀ c ∈ r.cards, c.application = a → ops j ≠ .remove c.id

def newcomer? (ops : ι → Operation) (r : Register) (i : ι) : Option Application :=
  match ops i with
  | .register a => if r.Holds a then none else some a
  | _ => none

variable {ops : ι → Operation} {r r' : Register} {n : Nat} {is : List ι} {i : ι}

theorem newcomer?_of_register {a : Application} (hi : ops i = .register a) (ha : ¬r.Holds a) :
    newcomer? ops r i = some a := by
  rw [newcomer?, hi]
  exact if_neg ha

theorem newcomer?_of_held {a : Application} (hi : ops i = .register a) (ha : r.Holds a) :
    newcomer? ops r i = none := by
  rw [newcomer?, hi]
  exact if_pos ha

theorem newcomer?_of_remove {id : Int32} (hi : ops i = .remove id) :
    newcomer? ops r i = none := by
  rw [newcomer?, hi]

theorem newcomer?_eq_some_iff {a : Application} :
    newcomer? ops r i = some a ↔ ops i = .register a ∧ ¬r.Holds a := by
  constructor
  · intro h
    unfold newcomer? at h
    split at h
    · rename_i b hb
      split at h
      · cases h
      · rename_i hn
        cases h
        exact ⟨hb, hn⟩
    · cases h
  · rintro ⟨hi, ha⟩
    exact newcomer?_of_register hi ha

def newcomers (ops : ι → Operation) (r : Register) (is : List ι) : List Application :=
  is.filterMap (newcomer? ops r)

theorem mem_newcomers {a : Application} :
    a ∈ newcomers ops r is ↔ ∃ i ∈ is, ops i = .register a ∧ ¬r.Holds a := by
  rw [newcomers, List.mem_filterMap]
  simp only [newcomer?_eq_some_iff]

theorem newcomers_concat (is : List ι) (i : ι) :
    newcomers ops r (is ++ [i]) = newcomers ops r is ++ (newcomer? ops r i).toList := by
  rw [newcomers, List.filterMap_append]
  cases h : newcomer? ops r i <;> simp [h, newcomers]

theorem newcomers_concat_of_none (h : newcomer? ops r i = none) :
    newcomers ops r (is ++ [i]) = newcomers ops r is := by
  rw [newcomers_concat, h, Option.toList_none, List.append_nil]

theorem newcomers_concat_of_some {a : Application} (h : newcomer? ops r i = some a) :
    newcomers ops r (is ++ [i]) = newcomers ops r is ++ [a] := by
  rw [newcomers_concat, h, Option.toList_some]

theorem Independent.newcomers_nodup (h : Independent ops r) (hn : is.Nodup) :
    (newcomers ops r is).Nodup := by
  apply hn.filterMap
  intro i j a hi hj
  rw [Option.mem_def, newcomer?_eq_some_iff] at hi hj
  exact h.registered i j a hi.1 hj.1

def kept (ops : ι → Operation) (r : Register) (is : List ι) : List Card :=
  r.cards.filter fun c => decide (∀ i ∈ is, ops i ≠ .remove c.id)

theorem mem_kept {c : Card} : c ∈ kept ops r is ↔ c ∈ r.cards ∧ ∀ i ∈ is, ops i ≠ .remove c.id := by
  rw [kept, List.mem_filter, decide_eq_true_eq]

theorem kept_concat_register {a : Application} (hi : ops i = .register a) :
    kept ops r (is ++ [i]) = kept ops r is := by
  simp only [kept, List.forall_mem_append, List.forall_mem_singleton, hi]
  simp

theorem kept_concat_remove {id : Int32} (hi : ops i = .remove id) :
    kept ops r (is ++ [i]) = (kept ops r is).filter fun c => c.id ≠ id := by
  rw [kept, kept, List.filter_filter]
  apply List.filter_congr
  intro c _
  simp [hi, or_imp, forall_and, and_comm, eq_comm]

/-- The cards for new identities, with the ids after the first `n`. -/
def issue (n : Nat) (news : List Application) : List Card :=
  news.mapIdx fun k a => a.card (Int32.ofNat (n + k + 1))

theorem issue_concat (n : Nat) (news : List Application) (a : Application) :
    issue n (news ++ [a]) = issue n news ++ [a.card (Int32.ofNat (n + news.length + 1))] :=
  List.mapIdx_concat

theorem issue_applications (n : Nat) (news : List Application) :
    (issue n news).map Card.application = news := by
  apply List.ext_getElem
  · simp [issue]
  · intro k hk hk'
    simp [issue]

theorem exists_mem_issue_iff (n : Nat) {news : List Application} {a : Application} :
    (∃ c ∈ issue n news, c.application = a) ↔ a ∈ news := by
  rw [← List.mem_map, issue_applications]

theorem issue_ids (n : Nat) (news : List Application) :
    (issue n news).map Card.id = (List.range news.length).map fun k => Int32.ofNat (n + k + 1) := by
  apply List.ext_getElem
  · simp [issue]
  · intro k hk hk'
    simp [issue, Application.card]

theorem mem_issue_iff {news : List Application} {c : Card} :
    c ∈ issue n news ↔
      ∃ k, ∃ a : Application, news[k]? = some a ∧ c = a.card (Int32.ofNat (n + k + 1)) := by
  rw [issue, List.mem_mapIdx]
  constructor
  · rintro ⟨k, hk, rfl⟩
    exact ⟨k, _, List.getElem?_eq_getElem hk, rfl⟩
  · rintro ⟨k, a, hk, rfl⟩
    obtain ⟨hlt, rfl⟩ := List.getElem?_eq_some_iff.mp hk
    exact ⟨k, hlt, rfl⟩

theorem exists_id_issue_iff {news : List Application} (hfew : n + news.length < 2 ^ 31) (m : Int) :
    (∃ c ∈ issue n news, c.id.toInt = m) ↔ n < m ∧ m ≤ n + news.length := by
  have hid {k : Nat} (hk : k < news.length) :
      (Int32.ofNat (n + k + 1)).toInt = n + k + 1 := by
    rw [Int32.toInt_ofNat_of_lt (by omega)]
    omega
  constructor
  · rintro ⟨c, hc, rfl⟩
    obtain ⟨k, a, ha, rfl⟩ := mem_issue_iff.mp hc
    have hk := (List.getElem?_eq_some_iff.mp ha).1
    rw [Application.card, hid hk]
    omega
  · rintro ⟨hlt, hle⟩
    obtain ⟨k, rfl⟩ : ∃ k : Nat, m = n + k + 1 := ⟨(m - n - 1).toNat, by omega⟩
    have hk : k < news.length := by omega
    exact ⟨_, mem_issue_iff.mpr ⟨k, _, List.getElem?_eq_getElem hk, rfl⟩, hid hk⟩

theorem lt_of_mem_issue {news : List Application} (hfew : n + news.length < 2 ^ 31) {c : Card}
    (hc : c ∈ issue n news) : n < c.id.toInt :=
  ((exists_id_issue_iff hfew _).mp ⟨c, hc, rfl⟩).1

inductive Told (ops : ι → Operation) (n : Nat) (r : Register) (news : List Application) (i : ι) :
    Result → Prop
  | removed {id : Int32} (hi : ops i = .remove id) : Told ops n r news i (.ok .nothing)
  | known {a : Application} (hi : ops i = .register a) (ha : r.Holds a) :
    Told ops n r news i (.error .alreadyExists)
  | registered {a : Application} {k : Nat} (hi : ops i = .register a) (ha : ¬r.Holds a)
      (hk : news[k]? = some a) :
    Told ops n r news i (.ok (.card (a.card (Int32.ofNat (n + k + 1)))))

namespace Told

variable {news : List Application} {x : Result}

theorem append (h : Told ops n r news i x) (more : List Application) :
    Told ops n r (news ++ more) i x := by
  cases h with
  | removed hi => exact .removed hi
  | known hi ha => exact .known hi ha
  | registered hi ha hk =>
    apply Told.registered hi ha
    rw [List.getElem?_append_left (List.getElem?_eq_some_iff.mp hk).1]
    exact hk

theorem eq_of_remove (h : Told ops n r news i x) {id : Int32} (hi : ops i = .remove id) :
    x = .ok .nothing := by
  cases h with
  | removed => rfl
  | known hi' | registered hi' =>
    rw [hi] at hi'
    cases hi'

theorem eq_of_held (h : Told ops n r news i x) {a : Application} (hi : ops i = .register a)
    (ha : r.Holds a) : x = .error .alreadyExists := by
  cases h with
  | known => rfl
  | removed hi' =>
    rw [hi] at hi'
    cases hi'
  | registered hi' ha' =>
    rw [hi] at hi'
    cases hi'
    exact absurd ha ha'

theorem eq_of_new (h : Told ops n r news i x) {a : Application} (hi : ops i = .register a)
    (ha : ¬r.Holds a) :
    ∃ k, news[k]? = some a ∧ x = .ok (.card (a.card (Int32.ofNat (n + k + 1)))) := by
  cases h with
  | removed hi' =>
    rw [hi] at hi'
    cases hi'
  | known hi' ha' =>
    rw [hi] at hi'
    cases hi'
    exact absurd ha' ha
  | registered hi' _ hk =>
    rw [hi] at hi'
    cases hi'
    exact ⟨_, hk, rfl⟩

end Told

structure Served (ops : ι → Operation) (n : Nat) (r : Register) (is : List ι) (r' : Register) :
    Prop where
  numbered : r'.Numbered
  last : r'.lastId.toInt = n + (newcomers ops r is).length
  cards : r'.cards = kept ops r is ++ issue n (newcomers ops r is)

namespace Served

theorem begins (hr : r.Numbered) (hlast : r.lastId.toInt = n) : Served ops n r [] r where
  numbered := hr
  last := by simp [newcomers, hlast]
  cards := by simp [kept, newcomers, issue]

theorem mem_cards_iff (h : Served ops n r is r') {c : Card} :
    c ∈ r'.cards ↔
      (c ∈ r.cards ∧ ∀ i ∈ is, ops i ≠ .remove c.id) ∨ c ∈ issue n (newcomers ops r is) := by
  rw [h.cards, List.mem_append, mem_kept]

theorem holds_iff (h : Served ops n r is r') (hind : Independent ops r) (hi : i ∉ is)
    {a : Application} (ha : ops i = .register a) : r'.Holds a ↔ r.Holds a := by
  constructor
  · rintro ⟨c, hc, happ⟩
    rcases h.mem_cards_iff.mp hc with ⟨hc, -⟩ | hc
    · exact ⟨c, hc, happ⟩
    · obtain ⟨j, hj, hja, -⟩ := mem_newcomers.mp ((exists_mem_issue_iff n).mp ⟨c, hc, happ⟩)
      exact absurd (hind.registered j i a hja ha ▸ hj) hi
  · rintro ⟨c, hc, happ⟩
    refine ⟨c, h.mem_cards_iff.mpr (.inl ⟨hc, fun j _ => ?_⟩), happ⟩
    exact hind.apart i j a ha c hc happ

theorem finds (h : Served ops n r is r') (hind : Independent ops r) (hi : i ∉ is)
    {id : Int32} (hid : ops i = .remove id) : ∃ c ∈ r.cards, r'.findById id = some c := by
  obtain ⟨c, hc, rfl⟩ := hind.present i id hid
  refine ⟨c, hc, h.numbered.wellKept.findById_iff.mpr ⟨h.mem_cards_iff.mpr (.inl ⟨hc, ?_⟩), rfl⟩⟩
  intro j hj hjc
  exact hi (hind.removed j i c.id hjc hid ▸ hj)

theorem identities_iff (h : Served ops n r is r') (hind : Independent ops r)
    (hall : ∀ i, i ∈ is) (a : Application) :
    r'.Holds a ↔ (∃ c ∈ r.cards, c.application = a ∧ ∀ i, ops i ≠ .remove c.id) ∨
      ∃ i, ops i = .register a := by
  constructor
  · rintro ⟨c, hc, happ⟩
    rcases h.mem_cards_iff.mp hc with ⟨hc, hkept⟩ | hc
    · exact .inl ⟨c, hc, happ, fun i => hkept i (hall i)⟩
    · obtain ⟨i, -, hi, -⟩ := mem_newcomers.mp ((exists_mem_issue_iff n).mp ⟨c, hc, happ⟩)
      exact .inr ⟨i, hi⟩
  · rintro (⟨c, hc, happ, hkept⟩ | ⟨i, hi⟩)
    · exact ⟨c, h.mem_cards_iff.mpr (.inl ⟨hc, fun i _ => hkept i⟩), happ⟩
    by_cases ha : r.Holds a
    · obtain ⟨c, hc, happ⟩ := ha
      exact ⟨c, h.mem_cards_iff.mpr (.inl ⟨hc, fun j _ => hind.apart i j a hi c hc happ⟩), happ⟩
    · obtain ⟨c, hc, happ⟩ :=
        (exists_mem_issue_iff n).mpr (mem_newcomers.mpr ⟨i, hall i, hi, ha⟩)
      exact ⟨c, h.mem_cards_iff.mpr (.inr hc), happ⟩

theorem remove (h : Served ops n r is r') (hind : Independent ops r) (hr : r.Numbered)
    (hlast : r.lastId.toInt = n) (hi : i ∉ is)
    (hfew : n + (newcomers ops r is).length < 2 ^ 31) {id : Int32} (hid : ops i = .remove id) :
    Served ops n r (is ++ [i]) ((ops i).run r').2 ∧ ((ops i).run r').1 = .ok .nothing := by
  obtain ⟨c, hc, hf⟩ := h.finds hind hi hid
  obtain ⟨-, rfl⟩ := h.numbered.wellKept.findById_iff.mp hf
  have hnews : newcomers ops r (is ++ [i]) = newcomers ops r is :=
    newcomers_concat_of_none (newcomer?_of_remove hid)
  rw [hid, run_remove hf]
  refine ⟨⟨h.numbered.deleteById c.id, ?_, ?_⟩, rfl⟩
  · rw [hnews]
    exact h.last
  · rw [hnews, kept_concat_remove hid, h.numbered.wellKept.deleteById_cards, h.cards,
      List.filter_append]
    congr 1
    apply List.filter_eq_self.mpr
    intro d hd
    -- The card to be removed has been there from the beginning, so it is none of the new ones.
    have hle := hr.id_le hc
    have hlt := lt_of_mem_issue hfew hd
    rw [hlast] at hle
    rw [decide_eq_true_eq]
    intro heq
    rw [heq] at hlt
    omega

theorem register (h : Served ops n r is r') (hind : Independent ops r) (hi : i ∉ is)
    {a : Application} (hia : ops i = .register a) (ha : ¬r.Holds a)
    (hfew : n + (newcomers ops r (is ++ [i])).length < 2 ^ 31) :
    Served ops n r (is ++ [i]) ((ops i).run r').2 ∧
      ((ops i).run r').1 =
        .ok (.card (a.card (Int32.ofNat (n + (newcomers ops r is).length + 1)))) := by
  have hnews : newcomers ops r (is ++ [i]) = newcomers ops r is ++ [a] :=
    newcomers_concat_of_some (newcomer?_of_register hia ha)
  rw [hnews, List.length_append, List.length_singleton] at hfew
  have hn : ¬r'.Holds a := (h.holds_iff hind hi hia).not.mpr ha
  have hf := Register.findByIdentity_eq_none_iff.mpr hn
  have hfew' : r'.lastId.toInt + 1 < 2 ^ 31 := by
    rw [h.last]
    omega
  have hlast : r'.lastId.toInt = ((n + (newcomers ops r is).length : Nat) : Int) := by
    rw [h.last, Int.natCast_add]
  have hid := Register.succ_eq_ofNat hlast hfew
  have hnumbered := h.numbered.insert hf hfew'
  rw [hia, run_register (hind.valid i a hia) hn, ← hid]
  rw [h.numbered.insert_eq hf hfew'] at hnumbered ⊢
  refine ⟨⟨hnumbered, ?_, ?_⟩, rfl⟩
  · rw [hnews, Register.toInt_succ hfew', h.last, List.length_append, List.length_singleton]
    omega
  · rw [hnews, issue_concat, ← hid, kept_concat_register hia, ← List.append_assoc, ← h.cards]
    simp [Register.cards]

theorem refuse (h : Served ops n r is r') (hind : Independent ops r) (hi : i ∉ is)
    {a : Application} (hia : ops i = .register a) (ha : r.Holds a) :
    Served ops n r (is ++ [i]) ((ops i).run r').2 ∧
      ((ops i).run r').1 = .error .alreadyExists := by
  have hnews : newcomers ops r (is ++ [i]) = newcomers ops r is :=
    newcomers_concat_of_none (newcomer?_of_held hia ha)
  rw [hia, run_register_of_held (hind.valid i a hia) ((h.holds_iff hind hi hia).mpr ha)]
  refine ⟨⟨h.numbered, ?_, ?_⟩, rfl⟩
  · rw [hnews]
    exact h.last
  · rw [hnews, kept_concat_register hia]
    exact h.cards

theorem next (h : Served ops n r is r') (hind : Independent ops r) (hr : r.Numbered)
    (hlast : r.lastId.toInt = n) (hi : i ∉ is)
    (hfew : n + (newcomers ops r (is ++ [i])).length < 2 ^ 31) :
    Served ops n r (is ++ [i]) ((ops i).run r').2 ∧
      Told ops n r (newcomers ops r (is ++ [i])) i ((ops i).run r').1 := by
  cases hop : ops i with
  | list => exact absurd hop (hind.changing i)
  | remove id =>
    rw [newcomers_concat, List.length_append] at hfew
    obtain ⟨hs, hx⟩ := h.remove hind hr hlast hi (by omega) hop
    rw [← hop, hx]
    exact ⟨hs, .removed hop⟩
  | register a =>
    by_cases ha : r.Holds a
    · obtain ⟨hs, hx⟩ := h.refuse hind hi hop ha
      rw [← hop, hx]
      exact ⟨hs, .known hop ha⟩
    · obtain ⟨hs, hx⟩ := h.register hind hi hop ha hfew
      rw [← hop, hx]
      refine ⟨hs, .registered hop ha ?_⟩
      rw [newcomers_concat_of_some (newcomer?_of_register hop ha), List.getElem?_concat_length]

end Served

theorem served_inTurn (hind : Independent ops r) (hr : r.Numbered) (hlast : r.lastId.toInt = n)
    (hn : is.Nodup) (hfew : n + (newcomers ops r is).length < 2 ^ 31) :
    Served ops n r is (inTurn ops is r).2 ∧
      ∀ i x, (i, x) ∈ (inTurn ops is r).1 → Told ops n r (newcomers ops r is) i x := by
  induction is using List.reverseRecOn with
  | nil =>
    refine ⟨.begins hr hlast, fun i x hmem => ?_⟩
    cases hmem
  | append_singleton is i ih =>
    have hi : i ∉ is := by
      intro hi
      exact (List.nodup_append.mp hn).2.2 i hi i List.mem_cons_self rfl
    have hfew' : n + (newcomers ops r is).length < 2 ^ 31 := by
      rw [newcomers_concat, List.length_append] at hfew
      omega
    obtain ⟨hs, htold⟩ := ih (List.nodup_append.mp hn).1 hfew'
    obtain ⟨hs', htold'⟩ := hs.next hind hr hlast hi hfew
    rw [inTurn_append, inTurn_singleton]
    refine ⟨hs', fun j x hmem => ?_⟩
    rcases List.mem_append.mp hmem with hmem | hmem
    · rw [newcomers_concat]
      exact (htold j x hmem).append _
    · cases List.mem_singleton.mp hmem
      exact htold'

theorem Independent.accepted (h : Independent ops r) (i : ι) : (ops i).accepted = true := by
  cases hi : ops i with
  | register a =>
    rw [Operation.accepted, h.valid i a hi]
    rfl
  | _ => rfl

def Complete (s : Crowd ι Result) : Prop :=
  ∀ i, ∃ x, (s.client i).result? = some x

structure GoneThrough [Fintype ι] (ops : ι → Operation) (n : Nat) (r : Register)
    (news : List Application) (s : Crowd ι Result) : Prop where
  removals : ∀ i id, ops i = .remove id → (s.client i).result? = some (.ok .nothing)
  known : ∀ i a, ops i = .register a → r.Holds a →
    (s.client i).result? = some (.error .alreadyExists)
  registered : ∀ i a, ops i = .register a → ¬r.Holds a → ∃ k, news[k]? = some a ∧
    (s.client i).result? = some (.ok (.card (a.card (Int32.ofNat (n + k + 1)))))
  distinct : news.Nodup
  brought : ∀ a, a ∈ news ↔ (∃ i, ops i = .register a) ∧ ¬r.Holds a
  ids : ∀ m : Int, (∃ i c, (s.client i).result? = some (.ok (.card c)) ∧ c.id.toInt = m) ↔
    n < m ∧ m ≤ n + news.length
  identities : ∀ a, s.world.register.Holds a ↔
    (∃ c ∈ r.cards, c.application = a ∧ ∀ i, ops i ≠ .remove c.id) ∨ ∃ i, ops i = .register a
  cards : s.world.register.cards =
    (r.cards.filter fun c => decide (∀ i, ops i ≠ .remove c.id)) ++ issue n news
  last : s.world.register.lastId.toInt = n + news.length

/-- Two crowds that differ at most in which new card has got which new id. -/
structure SameButForIds (ops : ι → Operation) (r : Register) (s s' : Crowd ι Result) : Prop where
  results : ∀ i, (s.client i).result? = (s'.client i).result? ∨ ∃ a id id', ops i = .register a ∧
    (s.client i).result? = some (.ok (.card (a.card id))) ∧
    (s'.client i).result? = some (.ok (.card (a.card id')))
  old : ∀ c ∈ r.cards, c ∈ s.world.register.cards ↔ c ∈ s'.world.register.cards
  identities : (s.world.register.cards.map Card.application).Perm
    (s'.world.register.cards.map Card.application)
  ids : s.world.register.cards.map Card.id = s'.world.register.cards.map Card.id
  last : s.world.register.lastId = s'.world.register.lastId

section Fintype

variable [Fintype ι] {news news' : List Application} {s s' : Crowd ι Result}

theorem goneThrough_of_told (hind : Independent ops r) (hn : is.Nodup) (hall : ∀ i, i ∈ is)
    (hfew : n + (newcomers ops r is).length < 2 ^ 31)
    (hs : Served ops n r is s.world.register)
    (htold : ∀ i, ∃ x, (s.client i).result? = some x ∧ Told ops n r (newcomers ops r is) i x) :
    GoneThrough ops n r (newcomers ops r is) s := by
  have hdistinct := hind.newcomers_nodup hn (r := r)
  have hbrought (a : Application) :
      a ∈ newcomers ops r is ↔ (∃ i, ops i = .register a) ∧ ¬r.Holds a := by
    rw [mem_newcomers]
    simp only [hall, true_and, exists_and_right]
  have hregistered (i : ι) (a : Application) (hi : ops i = .register a) (ha : ¬r.Holds a) :
      ∃ k, (newcomers ops r is)[k]? = some a ∧
        (s.client i).result? = some (.ok (.card (a.card (Int32.ofNat (n + k + 1))))) := by
    obtain ⟨x, hx, ht⟩ := htold i
    obtain ⟨k, hk, rfl⟩ := ht.eq_of_new hi ha
    exact ⟨k, hk, hx⟩
  have hissued (c : Card) :
      (∃ i, (s.client i).result? = some (.ok (.card c))) ↔ c ∈ issue n (newcomers ops r is) := by
    constructor
    · rintro ⟨i, hc⟩
      obtain ⟨x, hx, ht⟩ := htold i
      rw [hx] at hc
      cases hc
      cases ht with
      | registered hi ha hk => exact mem_issue_iff.mpr ⟨_, _, hk, rfl⟩
    · intro hc
      obtain ⟨k, a, hk, rfl⟩ := mem_issue_iff.mp hc
      obtain ⟨⟨i, hi⟩, ha⟩ := (hbrought a).mp (List.mem_of_getElem? hk)
      obtain ⟨k', hk', hx⟩ := hregistered i a hi ha
      -- No identity has been brought twice, so its place is the one that its id tells.
      obtain ⟨hlt, heq⟩ := List.getElem?_eq_some_iff.mp hk
      obtain ⟨hlt', heq'⟩ := List.getElem?_eq_some_iff.mp hk'
      have hkk : k' = k := hdistinct.getElem_inj_iff.mp (heq'.trans heq.symm)
      exact ⟨i, hkk ▸ hx⟩
  constructor
  case removals =>
    intro i id hi
    obtain ⟨x, hx, ht⟩ := htold i
    rw [hx, ht.eq_of_remove hi]
  case known =>
    intro i a hi ha
    obtain ⟨x, hx, ht⟩ := htold i
    rw [hx, ht.eq_of_held hi ha]
  case registered => exact hregistered
  case distinct => exact hdistinct
  case brought => exact hbrought
  case ids =>
    intro m
    rw [← exists_id_issue_iff hfew, exists_comm]
    simp only [← hissued, exists_and_right]
  case identities => exact hs.identities_iff hind hall
  case cards =>
    rw [hs.cards, kept]
    simp only [hall, true_implies]
  case last => exact hs.last

theorem GoneThrough.perm (h : GoneThrough ops n r news s) (h' : GoneThrough ops n r news' s') :
    news.Perm news' := by
  rw [List.perm_ext_iff_of_nodup h.distinct h'.distinct]
  intro a
  rw [h.brought, h'.brought]

theorem GoneThrough.mem_cards_iff (h : GoneThrough ops n r news s) (hr : r.Numbered)
    (hlast : r.lastId.toInt = n) (hfew : n + news.length < 2 ^ 31) {c : Card} (hc : c ∈ r.cards) :
    c ∈ s.world.register.cards ↔ ∀ i, ops i ≠ .remove c.id := by
  have hnew : c ∉ issue n news := by
    intro hnew
    have hle := hr.id_le hc
    have hlt := lt_of_mem_issue hfew hnew
    omega
  rw [h.cards, List.mem_append, List.mem_filter, decide_eq_true_eq, or_iff_left hnew,
    and_iff_right hc]

theorem GoneThrough.sameButForIds (h : GoneThrough ops n r news s)
    (h' : GoneThrough ops n r news' s') (hind : Independent ops r) (hr : r.Numbered)
    (hlast : r.lastId.toInt = n) (hfew : n + news.length < 2 ^ 31) : SameButForIds ops r s s' := by
  have hperm := h.perm h'
  constructor
  case results =>
    intro i
    cases hi : ops i with
    | list => exact absurd hi (hind.changing i)
    | remove id => exact .inl (by rw [h.removals i id hi, h'.removals i id hi])
    | register a =>
      by_cases ha : r.Holds a
      · exact .inl (by rw [h.known i a hi ha, h'.known i a hi ha])
      · obtain ⟨k, -, hx⟩ := h.registered i a hi ha
        obtain ⟨k', -, hx'⟩ := h'.registered i a hi ha
        exact .inr ⟨a, _, _, rfl, hx, hx'⟩
  case old =>
    intro c hc
    rw [h.mem_cards_iff hr hlast hfew hc, h'.mem_cards_iff hr hlast (hperm.length_eq ▸ hfew) hc]
  case identities =>
    rw [h.cards, h'.cards, List.map_append, List.map_append, issue_applications,
      issue_applications]
    exact hperm.append_left _
  case ids =>
    rw [h.cards, h'.cards, List.map_append, List.map_append, issue_ids, issue_ids,
      hperm.length_eq]
  case last =>
    apply Int32.toInt_inj.mp
    rw [h.last, h'.last, hperm.length_eq]

end Fintype

variable [DecidableEq ι]

def interleave (ops : ι → Operation) (r : Register) (turns : List ι) : Crowd ι Result :=
  (peaceful ops r).run (turns.map .turn)

theorem orderly_interleave (ops : ι → Operation) (r : Register) (turns : List ι) :
    Orderly ops r (interleave ops r turns) :=
  run_keeps (.begins ops r) fun _ m _ hs => hs.step m

theorem Orderly.ends {s : Crowd ι Result} (h : Orderly ops r s) {d : Dialogue Result}
    (hi : s.client i = .ready d) (hd : d.EndsWithin n) {turns : List ι}
    (hn : n ≤ turns.count i) : ∃ x, ((s.run (turns.map .turn)).client i).result? = some x := by
  induction turns generalizing s n d with
  | nil =>
    rw [List.count_nil, Nat.le_zero] at hn
    subst hn
    cases hd with
    | done _ x => exact ⟨x, Client.result?_eq_some_iff.mpr hi⟩
  | cons j turns ih =>
    by_cases hj : i = j
    · subst hj
      cases hd with
      | done n x =>
        apply ih (h.step _) (d := .done x) (n := 0) _ (.done 0 x) (Nat.zero_le _)
        rw [step_idle (by rw [hi]; rfl)]
        exact hi
      | ask hk =>
        apply ih (h.step _) (h.client_ask hi) (hk _)
        rw [List.count_cons_self] at hn
        omega
    · apply ih (h.step _) _ hd
      · rwa [List.count_cons_of_ne (Ne.symm hj)] at hn
      · rw [step_client_of_ne s hj]
        exact hi

theorem Orderly.inTurn {s : Crowd ι Result} (h : Orderly ops r s)
    (ha : ∀ i, (ops i).accepted = true) (hc : s.Complete) :
    s.world.register = (inTurn ops s.lastAnswers r).2 ∧
      ∀ i, i ∈ s.lastAnswers ∧
        ∃ x, (s.client i).result? = some x ∧ (i, x) ∈ (inTurn ops s.lastAnswers r).1 := by
  have hcounts : Counts s fun _ => true := by
    intro i
    refine ⟨fun _ => rfl, fun _ => ?_⟩
    obtain ⟨x, hx⟩ := hc i
    rw [served, Client.result?_eq_some_iff.mp hx]
    rfl
  have hall : s.lastAnswers.filter (fun _ => true) = s.lastAnswers :=
    List.filter_eq_self.mpr fun _ _ => rfl
  obtain ⟨hr, hx⟩ := h.serial _ hcounts
  rw [hall] at hr hx
  refine ⟨hr.symm, fun i => ?_⟩
  obtain ⟨y, hy⟩ := hc i
  have hi := h.answered i y (ha i) (Client.result?_eq_some_iff.mp hy)
  obtain ⟨x, hmem⟩ := exists_mem_inTurn hi r
  cases hx i x y hmem hy
  exact ⟨hi, _, hy, hmem⟩

theorem newcomers_length_le [Fintype ι] (hn : is.Nodup) :
    (newcomers ops r is).length ≤
      (Finset.univ.filter fun i => (newcomer? ops r i).isSome).card := by
  rw [newcomers, List.length_filterMap_eq_countP, List.countP_eq_length_filter,
    ← List.toFinset_card_of_nodup (hn.filter _)]
  apply Finset.card_le_card
  intro i hi
  simpa using (List.mem_filter.mp (List.mem_toFinset.mp hi)).2

/-- Operations that have no card in common all go through, each with two turns at most, and leave
the same register behind, but that the new ids may go to other new cards when the turns come in
another order. -/
theorem independent_confluent [Fintype ι] (hr : Register.Filled n r) (hind : Independent ops r)
    (hfew : n + (Finset.univ.filter fun i => (newcomer? ops r i).isSome).card < 2 ^ 31) :
    (∀ turns i, 2 ≤ turns.count i → ∃ x, ((interleave ops r turns).client i).result? = some x) ∧
      ∀ turns, (interleave ops r turns).Complete →
        (∃ news, GoneThrough ops n r news (interleave ops r turns)) ∧
          ∀ turns', (interleave ops r turns').Complete →
            SameButForIds ops r (interleave ops r turns) (interleave ops r turns') := by
  obtain ⟨hnumbered, hlast⟩ := hr.numbered (Nat.lt_of_le_of_lt (Nat.le_add_right ..) hfew)
  have hthrough (turns : List ι) (hc : (interleave ops r turns).Complete) :
      ∃ news, n + news.length < 2 ^ 31 ∧ GoneThrough ops n r news (interleave ops r turns) := by
    obtain ⟨hregister, hmem⟩ := (orderly_interleave ops r turns).inTurn hind.accepted hc
    have hn : (interleave ops r turns).lastAnswers.Nodup := List.nodup_dedup _
    have hfew' := Nat.lt_of_le_of_lt (Nat.add_le_add_left (newcomers_length_le hn) n) hfew
    obtain ⟨hs, htold⟩ := served_inTurn hind hnumbered hlast hn hfew'
    rw [← hregister] at hs
    refine ⟨_, hfew', goneThrough_of_told hind hn (fun i => (hmem i).1) hfew' hs fun i => ?_⟩
    obtain ⟨-, x, hx, hx'⟩ := hmem i
    exact ⟨x, hx, htold i x hx'⟩
  constructor
  · intro turns i hi
    apply (Orderly.begins ops r).ends _ (ops i).dialogue_endsWithin hi
    exact enter_client ops _ i
  · intro turns hc
    obtain ⟨news, hfew', h⟩ := hthrough turns hc
    refine ⟨⟨news, h⟩, fun turns' hc' => ?_⟩
    obtain ⟨news', -, h'⟩ := hthrough turns' hc'
    exact h.sameButForIds h' hind hnumbered hlast hfew'

theorem independent_confluent_of_four :
    let r : Register := ⟨2, [(1, ⟨1, "Alice", "CS", .student⟩), (2, ⟨2, "Bob", "EE", .teacher⟩)]⟩
    let ops : Fin 4 → Operation
      | 0 => .remove 1
      | 1 => .register ⟨"Bob", "EE", .teacher⟩
      | 2 => .register ⟨"Carol", "CS", .student⟩
      | 3 => .register ⟨"Dave", "CS", .student⟩
    let s := interleave ops r [2, 3, 0, 3, 2, 1, 0]
    let s' := interleave ops r [2, 2, 3, 1, 0, 0, 3]
    Register.Filled 2 r ∧ Independent ops r ∧ s.Complete ∧ s'.Complete ∧
      (∃ news, GoneThrough ops 2 r news s) ∧ SameButForIds ops r s s' ∧
      (s.client 2).result? = some (.ok (.card ⟨4, "Carol", "CS", .student⟩)) ∧
      (s'.client 2).result? = some (.ok (.card ⟨3, "Carol", "CS", .student⟩)) := by
  intro r ops s s'
  have hr : Register.Filled 2 r :=
    (Register.Filled.empty.call (.insert ⟨"Alice", "CS", .student⟩)).call
      (.insert ⟨"Bob", "EE", .teacher⟩)
  have hdistinct : ∀ i j, ops i = ops j → i = j := by decide
  have hind : Independent ops r := by
    constructor
    case changing => decide
    case valid =>
      intro i a hi
      fin_cases i <;> cases hi <;> rfl
    case registered => exact fun i j _ hi hj => hdistinct i j (hi.trans hj.symm)
    case removed => exact fun i j _ hi hj => hdistinct i j (hi.trans hj.symm)
    case present =>
      intro i id hi
      fin_cases i <;> cases hi
      decide
    case apart =>
      intro i j a hi
      fin_cases i <;> cases hi <;> revert j <;> decide
  have hfew : 2 + (Finset.univ.filter fun i => (newcomer? ops r i).isSome).card < 2 ^ 31 := by
    decide
  have hc : s.Complete := by
    have hall : ∀ i, (s.client i).result?.isSome = true := by decide +kernel
    exact fun i => Option.isSome_iff_exists.mp (hall i)
  have hc' : s'.Complete := by
    have hall : ∀ i, (s'.client i).result?.isSome = true := by decide +kernel
    exact fun i => Option.isSome_iff_exists.mp (hall i)
  obtain ⟨hnews, hsame⟩ := (independent_confluent hr hind hfew).2 _ hc
  exact ⟨hr, hind, hc, hc', hnews, hsame _ hc', by decide +kernel, by decide +kernel⟩

end Crowd

end CardDesk
