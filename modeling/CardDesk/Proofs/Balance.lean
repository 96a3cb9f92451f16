import CardDesk.Proofs.Gain
import Mathlib.Data.FinEnum
import Mathlib.Data.Fintype.Card

/-!
The register's balance: the cards in it are those registered and not removed, whatever goes wrong
with look-ups and failures and whatever the order of the clients' turns. That an insertion checks
the identity itself and a deletion says itself whether it removed anything is all that it takes.
-/

namespace CardDesk

open Operation
open scoped Classical

noncomputable section

variable {ι : Type}

theorem update_eq_some_iff [DecidableEq ι] {gain : ι → Option Gain} {i : ι} (hi : gain i = none)
    {g g' : Gain} {j : ι} :
    Function.update gain i (some g) j = some g' ↔ (j = i ∧ g' = g) ∨ gain j = some g' := by
  by_cases hj : j = i
  · subst hj
    simp [hi, eq_comm]
  · simp [hj]

def idOf (gain : ι → Option Gain) (i : ι) : Int32 :=
  (gain i).elim 0 Gain.id

theorem idOf_eq {gain : ι → Option Gain} {i : ι} {g : Gain} (h : gain i = some g) :
    idOf gain i = g.id := by
  rw [idOf, h, Option.elim_some]

variable [Fintype ι]

def registrations (gain : ι → Option Gain) : Finset ι :=
  Finset.univ.filter fun i => ∃ c, gain i = some (.registered c)

def registrationsOf (gain : ι → Option Gain) (a : Application) : Finset ι :=
  Finset.univ.filter fun i => ∃ c, gain i = some (.registered c) ∧ c.application = a

def removalsOf (gain : ι → Option Gain) (a : Application) : Finset ι :=
  Finset.univ.filter fun i => ∃ c, gain i = some (.removed c.id) ∧ c.application = a ∧
    ∃ j, gain j = some (.registered c)

theorem mem_registrationsOf {gain : ι → Option Gain} {a : Application} {i : ι} :
    i ∈ registrationsOf gain a ↔ ∃ c, gain i = some (.registered c) ∧ c.application = a := by
  simp [registrationsOf]

theorem mem_removalsOf {gain : ι → Option Gain} {a : Application} {i : ι} :
    i ∈ removalsOf gain a ↔ ∃ c, gain i = some (.removed c.id) ∧ c.application = a ∧
      ∃ j, gain j = some (.registered c) := by
  simp [removalsOf]

structure Balanced (gain : ι → Option Gain) (r : Register) : Prop where
  wellKept : r.WellKept
  last : r.lastId.toInt = (registrations gain).card
  issued : ∀ i c, gain i = some (.registered c) → c.id.toInt ≤ r.lastId.toInt
  distinct : ∀ i j c d, gain i = some (.registered c) → gain j = some (.registered d) →
    c.id = d.id → i = j
  stored : ∀ c, c ∈ r.cards ↔
    (∃ i, gain i = some (.registered c)) ∧ ∀ j, gain j ≠ some (.removed c.id)
  known : ∀ j id, gain j = some (.removed id) → ∃ i c, gain i = some (.registered c) ∧ c.id = id
  once : ∀ i j id, gain i = some (.removed id) → gain j = some (.removed id) → i = j

namespace Balanced

theorem empty : Balanced (fun _ : ι => none) .empty where
  wellKept := .empty
  last := by simp [registrations, Register.empty]
  issued _ _ h := by cases h
  distinct _ _ _ _ h := by cases h
  stored c := by simp [Register.empty, Register.cards]
  known _ _ h := by cases h
  once _ _ _ h := by cases h

section Count

variable {gain : ι → Option Gain} {r : Register}

theorem card_image_registrationsOf (h : Balanced gain r) (a : Application) :
    ((registrationsOf gain a).image (idOf gain)).card = (registrationsOf gain a).card := by
  apply Finset.card_image_of_injOn
  intro i hi j hj hij
  obtain ⟨c, hc, -⟩ := mem_registrationsOf.mp hi
  obtain ⟨d, hd, -⟩ := mem_registrationsOf.mp hj
  rw [idOf_eq hc, idOf_eq hd] at hij
  exact h.distinct i j c d hc hd hij

theorem card_image_removalsOf (h : Balanced gain r) (a : Application) :
    ((removalsOf gain a).image (idOf gain)).card = (removalsOf gain a).card := by
  apply Finset.card_image_of_injOn
  intro i hi j hj hij
  obtain ⟨c, hc, -⟩ := mem_removalsOf.mp hi
  obtain ⟨d, hd, -⟩ := mem_removalsOf.mp hj
  rw [idOf_eq hc, idOf_eq hd] at hij
  have hid : c.id = d.id := hij
  exact h.once i j c.id hc (hid ▸ hd)

def storedIds (r : Register) (a : Application) : Finset Int32 :=
  ((r.cards.filter fun c => c.application = a).map Card.id).toFinset

theorem mem_storedIds {a : Application} {id : Int32} :
    id ∈ storedIds r a ↔ ∃ c ∈ r.cards, c.application = a ∧ c.id = id := by
  simp [storedIds, and_assoc]

theorem card_storedIds (h : Balanced gain r) (a : Application) :
    (storedIds r a).card = r.cards.countP fun c => c.application = a := by
  rw [storedIds, List.toFinset_card_of_nodup, List.length_map, List.countP_eq_length_filter]
  exact h.wellKept.ids_nodup.sublist (List.filter_sublist.map _)

theorem image_registrationsOf (h : Balanced gain r) (a : Application) :
    (registrationsOf gain a).image (idOf gain) =
      (removalsOf gain a).image (idOf gain) ∪ storedIds r a := by
  ext id
  rw [Finset.mem_union, Finset.mem_image, Finset.mem_image, mem_storedIds]
  constructor
  · rintro ⟨i, hi, rfl⟩
    obtain ⟨c, hc, ha⟩ := mem_registrationsOf.mp hi
    rw [idOf_eq hc]
    by_cases hgone : ∃ j, gain j = some (.removed c.id)
    · obtain ⟨j, hj⟩ := hgone
      exact .inl ⟨j, mem_removalsOf.mpr ⟨c, hj, ha, i, hc⟩, by rw [idOf_eq hj]; rfl⟩
    · exact .inr ⟨c, (h.stored c).mpr ⟨⟨i, hc⟩, fun j hj => hgone ⟨j, hj⟩⟩, ha, rfl⟩
  · rintro (⟨i, hi, rfl⟩ | ⟨c, hc, ha, rfl⟩)
    · obtain ⟨c, hc, ha, j, hj⟩ := mem_removalsOf.mp hi
      exact ⟨j, mem_registrationsOf.mpr ⟨c, hj, ha⟩, by rw [idOf_eq hj, idOf_eq hc]; rfl⟩
    · obtain ⟨⟨i, hi⟩, -⟩ := (h.stored c).mp hc
      exact ⟨i, mem_registrationsOf.mpr ⟨c, hi, ha⟩, idOf_eq hi⟩

theorem removed_not_stored (h : Balanced gain r) (a : Application) :
    Disjoint ((removalsOf gain a).image (idOf gain)) (storedIds r a) := by
  rw [Finset.disjoint_left]
  intro id hid hid'
  obtain ⟨i, hi, rfl⟩ := Finset.mem_image.mp hid
  obtain ⟨c, hc, -⟩ := mem_removalsOf.mp hi
  obtain ⟨d, hd, -, hdid⟩ := mem_storedIds.mp hid'
  rw [idOf_eq hc] at hdid
  exact ((h.stored d).mp hd).2 i (hdid ▸ hc)

theorem card_registrationsOf (h : Balanced gain r) (a : Application) :
    (registrationsOf gain a).card =
      (removalsOf gain a).card + r.cards.countP fun c => c.application = a := by
  rw [← h.card_image_registrationsOf, h.image_registrationsOf,
    Finset.card_union_of_disjoint (h.removed_not_stored a), h.card_image_removalsOf,
    h.card_storedIds]

end Count

variable [DecidableEq ι] {gain : ι → Option Gain} {r r' : Register} {i : ι}

theorem registrations_register (hi : gain i = none) (c : Card) :
    registrations (Function.update gain i (some (.registered c))) =
      insert i (registrations gain) := by
  ext j
  simp only [registrations, Finset.mem_filter, Finset.mem_univ, true_and, Finset.mem_insert,
    update_eq_some_iff hi]
  constructor
  · rintro ⟨d, ⟨rfl, -⟩ | hd⟩
    · exact .inl rfl
    · exact .inr ⟨d, hd⟩
  · rintro (rfl | ⟨d, hd⟩)
    · exact ⟨c, .inl ⟨rfl, rfl⟩⟩
    · exact ⟨d, .inr hd⟩

theorem card_registrations_register (hi : gain i = none) (c : Card) :
    (registrations (Function.update gain i (some (.registered c)))).card =
      (registrations gain).card + 1 := by
  rw [registrations_register hi, Finset.card_insert_of_notMem]
  simp [registrations, hi]

theorem registrations_remove (hi : gain i = none) (id : Int32) :
    registrations (Function.update gain i (some (.removed id))) = registrations gain := by
  ext j
  simp [registrations, update_eq_some_iff hi]

theorem register (h : Balanced gain r) (hi : gain i = none) {a : Application} {id : Int32}
    (hins : r.insert a = (.ok id, r')) (hfew : (registrations gain).card + 1 < 2 ^ 31) :
    Balanced (Function.update gain i (some (.registered (a.card id)))) r' := by
  obtain ⟨-, hid, hr'⟩ := Register.insert_eq_ok hins
  have hlast : id.toInt = r.lastId.toInt + 1 := by
    rw [hid]
    apply Register.toInt_succ
    rw [h.last]
    omega
  have hlast' : r'.lastId = id := by rw [hr']
  -- The new id is greater than all that have been given, so no other card has it.
  have hfresh {j c} (hc : gain j = some (.registered c)) : c.id ≠ id := by
    rintro rfl
    have := h.issued j c hc
    omega
  have hremoved {j id'} : Function.update gain i (some (.registered (a.card id))) j =
      some (.removed id') ↔ gain j = some (.removed id') := by
    simp [update_eq_some_iff hi]
  constructor
  case wellKept =>
    have := h.wellKept.insert a
    rwa [hins] at this
  case last =>
    rw [hlast', hlast, card_registrations_register hi, h.last]
    rfl
  case issued =>
    intro j c hc
    rw [hlast']
    rcases (update_eq_some_iff hi).mp hc with ⟨-, hc⟩ | hc
    · cases hc
      exact Int.le_refl _
    · have := h.issued j c hc
      omega
  case distinct =>
    intro j l c d hc hd hcd
    rcases (update_eq_some_iff hi).mp hc with ⟨hj, hnew⟩ | hold <;>
      rcases (update_eq_some_iff hi).mp hd with ⟨hl, hnew'⟩ | hold'
    · exact hj.trans hl.symm
    · cases hnew
      exact absurd hcd.symm (hfresh hold')
    · cases hnew'
      exact absurd hcd (hfresh hold)
    · exact h.distinct j l c d hold hold' hcd
  case stored =>
    intro c
    simp only [h.wellKept.mem_insert_cards hins, h.stored, ne_eq, hremoved]
    constructor
    · rintro (rfl | ⟨⟨⟨j, hj⟩, hn⟩, -⟩)
      · refine ⟨⟨i, Function.update_self ..⟩, fun j hj => ?_⟩
        obtain ⟨l, d, hd, hdid⟩ := h.known j _ hj
        exact hfresh hd hdid
      · exact ⟨⟨j, (update_eq_some_iff hi).mpr (.inr hj)⟩, hn⟩
    · rintro ⟨⟨j, hj⟩, hn⟩
      rcases (update_eq_some_iff hi).mp hj with ⟨-, hc⟩ | hj
      · cases hc
        exact .inl rfl
      · exact .inr ⟨⟨⟨j, hj⟩, hn⟩, hfresh hj⟩
  case known =>
    intro j id' hj
    obtain ⟨l, d, hd, hdid⟩ := h.known j id' (hremoved.mp hj)
    exact ⟨l, d, (update_eq_some_iff hi).mpr (.inr hd), hdid⟩
  case once =>
    intro j l id' hj hl
    exact h.once j l id' (hremoved.mp hj) (hremoved.mp hl)

theorem remove (h : Balanced gain r) (hi : gain i = none) {id : Int32}
    (hdel : r.deleteById id = (true, r')) :
    Balanced (Function.update gain i (some (.removed id))) r' := by
  have hcards : ∀ c, c ∈ r'.cards ↔ c ∈ r.cards ∧ c.id ≠ id := by
    intro c
    have := h.wellKept.deleteById_cards id
    rw [hdel] at this
    simp [this]
  obtain ⟨c, hc, rfl⟩ : ∃ c, c ∈ r.cards ∧ c.id = id := by
    cases hf : r.findById id with
    | none =>
      rw [Register.deleteById_of_not_found hf] at hdel
      cases hdel
    | some c => exact ⟨c, h.wellKept.findById_iff.mp hf⟩
  obtain ⟨⟨l, hl⟩, hfresh⟩ := (h.stored c).mp hc
  have hr' : r' = (r.deleteById c.id).2 := by rw [hdel]
  have hlast : r'.lastId = r.lastId := by rw [hr', Register.deleteById]
  have hregistered {j d} : Function.update gain i (some (.removed c.id)) j = some (.registered d) ↔
      gain j = some (.registered d) := by
    simp [update_eq_some_iff hi]
  constructor
  case wellKept =>
    have := h.wellKept.deleteById c.id
    rwa [hdel] at this
  case last => rw [registrations_remove hi, ← h.last, hlast]
  case issued =>
    intro j d hd
    rw [hlast]
    exact h.issued j d (hregistered.mp hd)
  case distinct =>
    intro j l d e hd he
    exact h.distinct j l d e (hregistered.mp hd) (hregistered.mp he)
  case stored =>
    intro d
    simp only [hcards, h.stored, hregistered, and_assoc]
    apply and_congr_right
    intro _
    constructor
    · rintro ⟨hn, hne⟩ j hj
      rcases (update_eq_some_iff hi).mp hj with ⟨-, hg⟩ | hj
      · exact hne (Gain.removed.inj hg)
      · exact hn j hj
    · intro hn
      refine ⟨fun j hj => hn j ((update_eq_some_iff hi).mpr (.inr hj)), fun hid => ?_⟩
      exact hn i ((update_eq_some_iff hi).mpr (.inl ⟨rfl, by rw [hid]⟩))
  case known =>
    intro j id hj
    rcases (update_eq_some_iff hi).mp hj with ⟨-, hg⟩ | hj
    · cases hg
      exact ⟨l, c, hregistered.mpr hl, rfl⟩
    · obtain ⟨l, d, hd, hdid⟩ := h.known j id hj
      exact ⟨l, d, hregistered.mpr hd, hdid⟩
  case once =>
    -- The card was still there, so no one had been told of its removal.
    intro j m id hj hm
    rcases (update_eq_some_iff hi).mp hj with ⟨hj, hg⟩ | hj <;>
      rcases (update_eq_some_iff hi).mp hm with ⟨hm, hg'⟩ | hm
    · exact hj.trans hm.symm
    · cases hg
      exact absurd hm (hfresh m)
    · cases hg'
      exact absurd hj (hfresh j)
    · exact h.once j m id hj hm

end Balanced

structure Account (ops : ι → Operation) (gain : ι → Option Gain) (r : Register) : Prop where
  applied : ∀ i c, gain i = some (.registered c) → ops i = .register c.application
  balanced : (registrations gain).card < 2 ^ 31 → Balanced gain r

theorem Account.settled [DecidableEq ι] {ops : ι → Operation} {gain : ι → Option Gain}
    {r r' : Register} (h : Account ops gain r) {i : ι} (hi : gain i = none) {g : Option Gain}
    (hs : Settled (ops i) r g r') : Account ops (Function.update gain i g) r' := by
  cases hs with
  | unchanged => rwa [← hi, Function.update_eq_self]
  | @registered a id r' ho hins =>
    refine ⟨?_, fun hfew => ?_⟩
    · intro j c hj
      rcases (update_eq_some_iff hi).mp hj with ⟨rfl, hc⟩ | hj
      · cases hc
        exact ho
      · exact h.applied j c hj
    · rw [Balanced.card_registrations_register hi] at hfew
      exact (h.balanced (by omega)).register hi hins hfew
  | @removed id r' ho hdel =>
    refine ⟨?_, fun hfew => ?_⟩
    · intro j c hj
      rcases (update_eq_some_iff hi).mp hj with ⟨-, hc⟩ | hj
      · cases hc
      · exact h.applied j c hj
    · rw [Balanced.registrations_remove hi] at hfew
      exact (h.balanced hfew).remove hi hdel

namespace Crowd

structure Accountable (ops : ι → Operation) (s : Crowd ι Result) : Prop where
  tame : s.world.script.Tame
  stages : ∀ i, (s.client i).AtStage (ops i)
  account : Account ops (s.gain ops) s.world.register

theorem Accountable.begins (ops : ι → Operation) {script : Script} (h : script.Tame) :
    Accountable ops (enter ops (World.fresh script)) := by
  refine ⟨h, ?_, ?_⟩
  · intro i
    rw [enter_client]
    exact .begun
  · rw [gain_enter]
    refine ⟨?_, fun _ => .empty⟩
    intro i c hc
    cases hc

variable {ops : ι → Operation} {s : Crowd ι Result}

def scripted [DecidableEq ι] (ops : ι → Operation) (script : Script) (turns : List ι) :
    Crowd ι Result :=
  (enter ops (World.fresh script)).run (turns.map .turn)

def registeredBy (ops : ι → Operation) (s : Crowd ι Result) (a : Application) : Finset ι :=
  Finset.univ.filter fun i =>
    ops i = .register a ∧ ∃ c, (s.client i).result? = some (.ok (.card c))

def removedBy (ops : ι → Operation) (s : Crowd ι Result) (a : Application) : Finset ι :=
  Finset.univ.filter fun i =>
    ∃ id, ops i = .remove id ∧ (s.client i).result? = some (.ok .nothing) ∧
      ∃ j, ops j = .register a ∧ (s.client j).result? = some (.ok (.card (a.card id)))

theorem registeredBy_eq (h : Account ops (s.gain ops) s.world.register) (a : Application) :
    registeredBy ops s a = registrationsOf (s.gain ops) a := by
  ext i
  simp only [registeredBy, Finset.mem_filter, Finset.mem_univ, true_and, mem_registrationsOf]
  constructor
  · rintro ⟨ho, c, hc⟩
    have hg : s.gain ops i = some (.registered c) :=
      Client.gain_eq_registered_iff.mpr ⟨⟨a, ho⟩, hc⟩
    have happ := h.applied i c hg
    rw [ho] at happ
    exact ⟨c, hg, (Operation.register.inj happ).symm⟩
  · rintro ⟨c, hg, rfl⟩
    exact ⟨h.applied i c hg, c, (Client.gain_eq_registered_iff.mp hg).2⟩

theorem removedBy_eq (h : Account ops (s.gain ops) s.world.register) (a : Application) :
    removedBy ops s a = removalsOf (s.gain ops) a := by
  ext i
  simp only [removedBy, Finset.mem_filter, Finset.mem_univ, true_and, mem_removalsOf]
  constructor
  · rintro ⟨id, ho, hx, j, hj, hc⟩
    exact ⟨a.card id, Client.gain_eq_removed_iff.mpr ⟨ho, hx⟩, rfl, j,
      Client.gain_eq_registered_iff.mpr ⟨⟨a, hj⟩, hc⟩⟩
  · rintro ⟨c, hg, rfl, j, hj⟩
    obtain ⟨ho, hx⟩ := Client.gain_eq_removed_iff.mp hg
    exact ⟨c.id, ho, hx, j, h.applied j c hj, (Client.gain_eq_registered_iff.mp hj).2⟩

variable [DecidableEq ι]

theorem Accountable.turn (h : Accountable ops s) (i : ι) :
    Accountable ops (s.step (.turn i)) := by
  have ht := Client.turned (h.stages i) h.tame
  refine ⟨ht.tame, ?_, ?_⟩
  · intro j
    by_cases hj : j = i
    · subst hj
      rw [step_client_self]
      exact ht.stage
    · rw [step_client_of_ne s hj]
      exact h.stages j
  · rw [gain_turn]
    obtain ⟨hr, hg⟩ | ⟨hi, hs⟩ := ht.change
    · have hself : Function.update (s.gain ops) i (((s.client i).turn s.world).1.gain (ops i)) =
          s.gain ops := by
        rw [hg]
        exact Function.update_eq_self ..
      rw [hself]
      exact hr.symm ▸ h.account
    · exact h.account.settled hi hs

theorem Accountable.scripted (ops : ι → Operation) {script : Script} (h : script.Tame)
    (turns : List ι) : Accountable ops (scripted ops script turns) := by
  apply run_keeps (.begins ops h)
  intro s m hm hs
  obtain ⟨i, -, rfl⟩ := List.mem_map.mp hm
  exact hs.turn i

/-- Whatever the script says of look-ups and failures, and in whatever order the clients have their
turns: of each identity as many cards are stored as have been registered and not removed, which is
at most one, and no card is removed twice. -/
theorem balance (ops : ι → Operation) (script : Script) (turns : List ι)
    (hscript : some .ghost ∉ script .deleteById)
    (hfew : (Finset.univ.filter fun i => ∃ a c, ops i = .register a ∧
      ((scripted ops script turns).client i).result? = some (.ok (.card c))).card < 2 ^ 31) :
    (∀ a, (registeredBy ops (scripted ops script turns) a).card =
        (removedBy ops (scripted ops script turns) a).card +
          (scripted ops script turns).world.register.cards.countP (fun c => c.application = a) ∧
      (scripted ops script turns).world.register.cards.countP (fun c => c.application = a) ≤ 1) ∧
      ∀ i j id, ops i = .remove id → ops j = .remove id →
        ((scripted ops script turns).client i).result? = some (.ok .nothing) →
        ((scripted ops script turns).client j).result? = some (.ok .nothing) → i = j := by
  have h := Accountable.scripted ops hscript turns
  generalize scripted ops script turns = s at h hfew
  have hb : Balanced (s.gain ops) s.world.register := by
    apply h.account.balanced
    apply lt_of_le_of_lt _ hfew
    apply Finset.card_le_card
    intro i hi
    obtain ⟨c, hc⟩ := (Finset.mem_filter.mp hi).2
    obtain ⟨⟨a, ha⟩, hx⟩ := Client.gain_eq_registered_iff.mp hc
    exact Finset.mem_filter.mpr ⟨Finset.mem_univ i, a, c, ha, hx⟩
  refine ⟨fun a => ⟨?_, hb.wellKept.countP_le_one a⟩, ?_⟩
  · rw [registeredBy_eq h.account, removedBy_eq h.account]
    exact hb.card_registrationsOf a
  · intro i j id hi hj hx hy
    exact hb.once i j id (Client.gain_eq_removed_iff.mpr ⟨hi, hx⟩)
      (Client.gain_eq_removed_iff.mpr ⟨hj, hy⟩)

/-- Both registrations are told that there is no such card, the second one has to wait, and the
first removal fails. -/
theorem balance_of_race :
    let alice : Application := ⟨"Alice", "CS", .student⟩
    let ops : Fin 4 → Operation := fun i => if i < 2 then .register alice else .remove 1
    let script : Script
      | .findByIdentity => [some .absent, some .absent]
      | .insert => [some (.before 5)]
      | .deleteById => [some (.fail (.database .poolTimedOut))]
      | _ => []
    let s := scripted ops script [0, 1, 0, 1, 2, 2, 0, 3, 3]
    (s.client 0).result? = some (.error .alreadyExists) ∧
      (s.client 1).result? = some (.ok (.card (alice.card 1))) ∧
      (s.client 3).result? = some (.ok .nothing) ∧
      (registeredBy ops s alice).card = (removedBy ops s alice).card +
        s.world.register.cards.countP fun c => c.application = alice := by
  intro alice ops script s
  have h := balance ops script [0, 1, 0, 1, 2, 2, 0, 3, 3] (by decide)
    ((Finset.card_le_univ _).trans_lt (by decide))
  have hs : scripted ops script [0, 1, 0, 1, 2, 2, 0, 3, 3] = s := rfl
  rw [hs] at h
  have hfirst : (s.client 0).result? = some (.error .alreadyExists) := by decide
  have hsecond : (s.client 1).result? = some (.ok (.card (alice.card 1))) := by decide
  have hthird : (s.client 3).result? = some (.ok .nothing) := by decide
  exact ⟨hfirst, hsecond, hthird, (h.1 alice).1⟩

end Crowd

end

end CardDesk
