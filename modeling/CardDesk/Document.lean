import CardDesk.Number.Double

namespace CardDesk

namespace Keyed

def put (key : String) (value : α) : List (String × α) → List (String × α)
  | [] => [(key, value)]
  | (k, v) :: rest => if k = key then (key, value) :: rest else (k, v) :: put key value rest

theorem lookup_put_self (key : String) (value : α) (members : List (String × α)) :
    (put key value members).lookup key = some value := by
  induction members with
  | nil => simp [put]
  | cons member rest ih =>
    obtain ⟨k, v⟩ := member
    by_cases h : k = key
    · simp [put, h]
    · have hk : (key == k) = false := by simpa using fun e => h e.symm
      simp [put, h, List.lookup_cons, hk, ih]

theorem lookup_put_of_ne {key other : String} (h : other ≠ key) (value : α)
    (members : List (String × α)) :
    (put key value members).lookup other = members.lookup other := by
  induction members with
  | nil => simp [put, h]
  | cons member rest ih =>
    obtain ⟨k, v⟩ := member
    by_cases hk : k = key
    · subst hk
      have ho : (other == k) = false := by simpa using h
      simp [put, List.lookup_cons, ho]
    · by_cases ho : other = k
      · subst ho
        simp [put, hk]
      · have hb : (other == k) = false := by simpa using ho
        simp [put, hk, List.lookup_cons, hb, ih]

end Keyed

inductive Document where
  | null
  | boolean (b : Bool)
  | integer (n : Int)
  | number (x : Double)
  | text (s : String)
  | list (items : List Document)
  | table (members : List (String × Document))
  deriving Repr

abbrev Document.Members := List (String × Document)

end CardDesk
