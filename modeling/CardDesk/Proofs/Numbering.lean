import CardDesk.Proofs.RegisterInvariant
import CardDesk.Proofs.Talk
import Mathlib.Algebra.Group.Nat.Defs

namespace CardDesk.Register

theorem succ_eq_ofNat {id : Int32} {n : Nat} (h : id.toInt = n) (hfew : n + 1 < 2 ^ 31) :
    id + 1 = Int32.ofNat (n + 1) := by
  apply Int32.toInt_inj.mp
  rw [toInt_succ (by omega), h, Int32.toInt_ofNat_of_lt hfew]
  rfl

structure Numbered (r : Register) : Prop where
  wellKept : r.WellKept
  known : ∀ row ∈ r.rows, row.1.toInt ≤ r.lastId.toInt

namespace Numbered

variable {r : Register}

theorem empty : Numbered .empty where
  wellKept := .empty
  known row hr := by cases hr

theorem id_le {c : Card} (h : r.Numbered) (hc : c ∈ r.cards) : c.id.toInt ≤ r.lastId.toInt :=
  h.known _ (h.wellKept.mem_cards_iff.mp hc)

theorem insert_eq {a : Application} (h : r.Numbered) (hf : r.findByIdentity a = none)
    (hfew : r.lastId.toInt + 1 < 2 ^ 31) :
    r.insert a =
      (.ok (r.lastId + 1),
        ⟨r.lastId + 1, r.rows ++ [(r.lastId + 1, a.card (r.lastId + 1))]⟩) := by
  rw [insert_of_not_found hf, place_last]
  intro row hr
  have := h.known row hr
  rw [Int32.lt_iff_toInt_lt, toInt_succ hfew]
  omega

theorem insert {a : Application} (h : r.Numbered) (hf : r.findByIdentity a = none)
    (hfew : r.lastId.toInt + 1 < 2 ^ 31) : (r.insert a).2.Numbered := by
  have hkept := h.wellKept.insert a
  rw [h.insert_eq hf hfew] at hkept ⊢
  refine ⟨hkept, fun row hr => ?_⟩
  rcases List.mem_append.mp hr with hr | hr
  · have := h.known row hr
    rw [toInt_succ hfew]
    omega
  · cases List.mem_singleton.mp hr
    exact Int.le_refl _

theorem deleteById (h : r.Numbered) (id : Int32) : (r.deleteById id).2.Numbered where
  wellKept := h.wellKept.deleteById id
  known row hr := h.known row (List.mem_of_mem_filter hr)

theorem answer {c : Call} (h : r.Numbered)
    (hfew : r.lastId.toInt + [(⟨c, (Register.answer c r).1⟩ : Talk)].countP Talk.inserts < 2 ^ 31) :
    (Register.answer c r).2.Numbered := by
  cases c with
  | insert a =>
    cases hf : r.findByIdentity a with
    | some c => rwa [Register.answer, insert_of_found hf]
    | none =>
      simp only [Register.answer, insert_of_not_found hf, Talk.inserts,
        List.countP_singleton] at hfew
      exact h.insert hf hfew
  | deleteById id => exact h.deleteById id
  | _ => exact h

end Numbered

theorem lastId_answer {r : Register} {c : Call}
    (h : r.lastId.toInt + [(⟨c, (answer c r).1⟩ : Talk)].countP Talk.inserts < 2 ^ 31) :
    (answer c r).2.lastId.toInt =
      r.lastId.toInt + [(⟨c, (answer c r).1⟩ : Talk)].countP Talk.inserts := by
  cases c with
  | insert a =>
    cases hf : r.findByIdentity a with
    | some c => simp [answer, insert_of_found hf, Talk.inserts]
    | none =>
      simp only [answer, insert_of_not_found hf, Talk.inserts, List.countP_singleton] at h ⊢
      exact toInt_succ h
  | deleteById id => simp [answer, deleteById, Talk.inserts]
  | _ => simp [answer, Talk.inserts]

/-- The registers that calls lead to from the empty one, with the number of cards that these calls
have inserted. -/
inductive Filled : Nat → Register → Prop
  | empty : Filled 0 .empty
  | call {n : Nat} {r : Register} (c : Call) (h : Filled n r) :
    Filled (n + [(⟨c, (answer c r).1⟩ : Talk)].countP Talk.inserts) (answer c r).2

theorem reachable_iff_filled {r : Register} : Reachable r ↔ ∃ n, Filled n r := by
  constructor
  · intro h
    induction h with
    | empty => exact ⟨0, .empty⟩
    | call c _ ih =>
      obtain ⟨n, hn⟩ := ih
      exact ⟨_, hn.call c⟩
  · rintro ⟨n, h⟩
    induction h with
    | empty => exact .empty
    | call c _ ih => exact ih.call c

theorem Filled.numbered {n : Nat} {r : Register} (h : Filled n r) (hn : n < 2 ^ 31) :
    r.Numbered ∧ r.lastId.toInt = n := by
  induction h with
  | empty => exact ⟨.empty, rfl⟩
  | @call n r c _ ih =>
    obtain ⟨hr, hlast⟩ := ih (Nat.lt_of_le_of_lt (Nat.le_add_right ..) hn)
    have hfew : r.lastId.toInt + [(⟨c, (Register.answer c r).1⟩ : Talk)].countP Talk.inserts <
        2 ^ 31 := by
      rw [hlast]
      exact_mod_cast hn
    refine ⟨hr.answer hfew, ?_⟩
    rw [lastId_answer hfew, hlast]
    rfl

end CardDesk.Register
