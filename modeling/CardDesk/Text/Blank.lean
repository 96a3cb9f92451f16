namespace CardDesk.Text

def isBlank (c : Char) : Bool :=
  let n := c.toNat
  (9 ≤ n && n ≤ 13) || n == 0x20 || n == 0x85 || n == 0xA0 || n == 0x1680 ||
    (0x2000 ≤ n && n ≤ 0x200A) || n == 0x2028 || n == 0x2029 || n == 0x202F || n == 0x205F ||
    n == 0x3000

def trimLeft (cs : List Char) : List Char :=
  cs.dropWhile isBlank

def trimRight (cs : List Char) : List Char :=
  (cs.reverse.dropWhile isBlank).reverse

def trim (s : String) : String :=
  String.ofList (trimRight (trimLeft s.toList))

def Trimmed (s : String) : Prop :=
  (∀ c, s.toList.head? = some c → isBlank c = false) ∧
    ∀ c, s.toList.getLast? = some c → isBlank c = false

theorem head_dropWhile {p : Char → Bool} {cs : List Char} {c : Char}
    (h : (cs.dropWhile p).head? = some c) : p c = false := by
  induction cs with
  | nil => simp at h
  | cons d r ih =>
    rw [List.dropWhile_cons] at h
    split at h
    · exact ih h
    · simp_all

theorem trimRight_prefix (cs : List Char) : trimRight cs <+: cs := by
  have h := List.reverse_prefix.mpr (cs.reverse.dropWhile_suffix isBlank)
  rwa [List.reverse_reverse] at h

theorem trimmed_trim (s : String) : Trimmed (trim s) := by
  rw [Trimmed, trim, String.toList_ofList]
  constructor
  · intro c hc
    obtain ⟨rest, hrest⟩ := trimRight_prefix (trimLeft s.toList)
    apply @head_dropWhile isBlank s.toList
    rw [← trimLeft, ← hrest, List.head?_append, hc, Option.some_or]
  · intro c hc
    rw [trimRight, List.getLast?_reverse] at hc
    exact head_dropWhile hc

theorem dropWhile_of_head {p : Char → Bool} {cs : List Char}
    (h : ∀ c, cs.head? = some c → p c = false) : cs.dropWhile p = cs := by
  cases cs with
  | nil => rfl
  | cons c r => rw [List.dropWhile_cons, h c rfl, if_neg Bool.false_ne_true]

theorem Trimmed.trim_eq {s : String} (h : Trimmed s) : trim s = s := by
  have hright : trimRight s.toList = s.toList := by
    rw [trimRight, dropWhile_of_head, List.reverse_reverse]
    rw [List.head?_reverse]
    exact h.2
  rw [trim, trimLeft, dropWhile_of_head h.1, hright, String.ofList_toList]

end CardDesk.Text
