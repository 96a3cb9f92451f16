import CardDesk.Document
import Mathlib.Data.List.Nodup

namespace CardDesk.Keyed

variable {α : Type}

theorem mem_put {key : String} {value : α} {members : List (String × α)} {m : String × α}
    (h : m ∈ put key value members) : m = (key, value) ∨ m ∈ members := by
  induction members with
  | nil => simpa [put] using h
  | cons n rest ih =>
    rw [put] at h
    split at h
    · rcases List.mem_cons.mp h with rfl | h
      · exact .inl rfl
      · exact .inr (List.mem_cons_of_mem _ h)
    · rcases List.mem_cons.mp h with rfl | h
      · exact .inr List.mem_cons_self
      · exact (ih h).imp_right (List.mem_cons_of_mem _)

def Distinct (members : List (String × α)) : Prop :=
  (members.map Prod.fst).Nodup

theorem Distinct.nil : Distinct ([] : List (String × α)) :=
  List.nodup_nil

theorem Distinct.put {members : List (String × α)} (h : Distinct members) (key : String)
    (value : α) : Distinct (put key value members) := by
  induction members with
  | nil => simp [Distinct, Keyed.put]
  | cons m rest ih =>
    obtain ⟨hm, hrest⟩ := List.nodup_cons.mp h
    rw [Keyed.put]
    split
    · rename_i hkey
      exact List.nodup_cons.mpr ⟨hkey ▸ hm, hrest⟩
    · rename_i hkey
      refine List.nodup_cons.mpr ⟨fun hmem => ?_, ih hrest⟩
      obtain ⟨n, hn, hname⟩ := List.mem_map.mp hmem
      rcases mem_put hn with rfl | hn
      · exact hkey hname.symm
      · exact hm (List.mem_map.mpr ⟨n, hn, hname⟩)

theorem mem_of_lookup {members : List (String × α)} {key : String} {value : α}
    (h : members.lookup key = some value) : (key, value) ∈ members := by
  obtain ⟨before, after, rfl, -⟩ := List.lookup_eq_some_iff.mp h
  exact List.mem_append_right _ List.mem_cons_self

theorem not_mem_keys_iff {members : List (String × α)} {key : String} :
    key ∉ members.map Prod.fst ↔ members.lookup key = none := by
  rw [List.lookup_eq_none_iff]
  simp only [List.mem_map, not_exists, not_and, bne_iff_ne, ne_eq]
  exact forall₂_congr fun m hm => ⟨fun h he => h he.symm, fun h he => h he.symm⟩

end CardDesk.Keyed
