import CardDesk.Proofs.Numbering

/-!
The ids of a register in the long run. They count the cards that have been inserted, in 32 bits: as
the greatest of them has been given out, the least one is next, and the count goes on from there.
-/

namespace CardDesk

def Talk.given : Talk → List Int32
  | ⟨.insert _, .ok id⟩ => [id]
  | _ => []

theorem Talk.length_given (t : Talk) : t.given.length = [t].countP Talk.inserts := by
  obtain ⟨c, x⟩ := t
  cases c <;> cases x <;> rfl

namespace Register

/-- The ids given out so far, and the register that has given them. -/
structure Tally where
  ids : List Int32 := []
  register : Register := .empty

namespace Tally

def put (t : Tally) (c : Call) : Tally :=
  ⟨t.ids ++ Talk.given ⟨c, (answer c t.register).1⟩, (answer c t.register).2⟩

def after (cs : List Call) : Tally :=
  cs.foldl put {}

theorem given_cases (c : Call) (r : Register) :
    (Talk.given ⟨c, (answer c r).1⟩ = [] ∧ (answer c r).2.lastId = r.lastId) ∨
      Talk.given ⟨c, (answer c r).1⟩ = [r.lastId + 1] ∧ (answer c r).2.lastId = r.lastId + 1 := by
  cases c with
  | insert a =>
    cases hf : r.findByIdentity a with
    | some c =>
      rw [answer, insert_of_found hf]
      exact .inl ⟨rfl, rfl⟩
    | none =>
      rw [answer, insert_of_not_found hf]
      exact .inr ⟨rfl, rfl⟩
  | _ => exact .inl ⟨rfl, rfl⟩

structure Counted (t : Tally) : Prop where
  filled : Filled t.ids.length t.register
  last : t.register.lastId = Int32.ofNat t.ids.length
  ids : t.ids = (List.range t.ids.length).map fun k => Int32.ofNat (k + 1)

theorem Counted.empty : Counted {} :=
  ⟨.empty, rfl, rfl⟩

theorem Counted.next {t : Tally} (h : t.Counted) :
    t.register.lastId + 1 = Int32.ofNat (t.ids.length + 1) := by
  rw [h.last, Int32.ofNat_add]
  rfl

theorem Counted.wellKept {t : Tally} (h : t.Counted) : t.register.WellKept :=
  (reachable_iff_filled.mpr ⟨_, h.filled⟩).wellKept

theorem Counted.put {t : Tally} (h : t.Counted) (c : Call) : (t.put c).Counted := by
  have hfilled : Filled (t.put c).ids.length (t.put c).register := by
    rw [Tally.put, List.length_append, Talk.length_given]
    exact h.filled.call c
  rcases given_cases c t.register with ⟨hgiven, hlast⟩ | ⟨hgiven, hlast⟩
  · have hids : (t.put c).ids = t.ids := by rw [Tally.put, hgiven, List.append_nil]
    refine ⟨hfilled, ?_, ?_⟩
    · rw [hids]
      exact hlast.trans h.last
    · rw [hids]
      exact h.ids
  · have hids : (t.put c).ids = t.ids ++ [t.register.lastId + 1] := by rw [Tally.put, hgiven]
    refine ⟨hfilled, ?_, ?_⟩
    · rw [hids, List.length_append, List.length_singleton, ← h.next]
      exact hlast
    · rw [hids, List.length_append, List.length_singleton, List.range_succ, List.map_append,
        ← h.ids, h.next]
      rfl

theorem Counted.foldl {t : Tally} (h : t.Counted) (cs : List Call) :
    (cs.foldl Tally.put t).Counted := by
  induction cs generalizing t with
  | nil => exact h
  | cons c cs ih => exact ih (h.put c)

theorem counted_after (cs : List Call) : (after cs).Counted :=
  Counted.empty.foldl cs

/-- What an insertion should make of a register: the id is new and behind all others, and the cards
are all still there. -/
structure Fresh (t : Tally) (id : Int32) (r : Register) : Prop where
  positive : 0 < id
  greatest : ∀ earlier ∈ t.ids, earlier < id
  kept : ∀ c ∈ t.register.cards, c ∈ r.cards

variable {t : Tally} {a : Application} {r : Register}

theorem Counted.earlier_lt (h : t.Counted) (hfew : t.ids.length + 1 < 2 ^ 31) :
    ∀ id ∈ t.ids, id < Int32.ofNat (t.ids.length + 1) := by
  intro id hid
  rw [h.ids] at hid
  obtain ⟨k, hk, rfl⟩ := List.mem_map.mp hid
  rw [List.mem_range] at hk
  rw [Int32.lt_iff_toInt_lt, Int32.toInt_ofNat_of_lt (by omega), Int32.toInt_ofNat_of_lt hfew]
  omega

theorem Counted.fresh (h : t.Counted) (hfew : t.ids.length + 1 < 2 ^ 31)
    (hr : t.register.insert a = (.ok (Int32.ofNat (t.ids.length + 1)), r)) :
    t.Fresh (Int32.ofNat (t.ids.length + 1)) r where
  positive := by
    rw [Int32.lt_iff_toInt_lt, Int32.toInt_ofNat_of_lt hfew]
    exact Int.natCast_succ_pos _
  greatest := h.earlier_lt hfew
  kept c hc := by
    refine (h.wellKept.mem_insert_cards hr).mpr (.inr ⟨hc, fun hid => ?_⟩)
    obtain ⟨hnumbered, hlast⟩ := h.filled.numbered (Nat.lt_of_succ_lt hfew)
    have hle := hnumbered.id_le hc
    rw [hid, Int32.toInt_ofNat_of_lt hfew, hlast] at hle
    omega

theorem Counted.stale {id : Int32} (h : t.Counted) (hmany : 2 ^ 31 ≤ t.ids.length + 1) :
    ¬t.Fresh id r := by
  intro hfresh
  -- The greatest id of all has been given out, and no id is greater.
  have hmem : Int32.ofNat (2 ^ 31 - 1) ∈ t.ids := by
    rw [h.ids]
    exact List.mem_map.mpr ⟨2 ^ 31 - 2, List.mem_range.mpr (by omega), rfl⟩
  have hlt := Int32.lt_iff_toInt_lt.mp (hfresh.greatest _ hmem)
  have hle := id.toInt_lt
  rw [Int32.toInt_ofNat_of_lt (by decide)] at hlt
  omega

/-- Whatever has been called before, an insertion gives out the id that counts it and replaces
nothing but a card with this id; it is as it should be just as long as the ids suffice. -/
theorem insertion_fresh_iff (cs : List Call) {a : Application}
    (ha : ¬(after cs).register.Holds a) :
    ∃ id r, (after cs).register.insert a = (.ok id, r) ∧
      id = Int32.ofNat ((after cs).ids.length + 1) ∧
      (after cs).ids = (List.range (after cs).ids.length).map (fun k => Int32.ofNat (k + 1)) ∧
      (∀ c, c ∈ r.cards ↔ c = a.card id ∨ c ∈ (after cs).register.cards ∧ c.id ≠ id) ∧
      ((after cs).Fresh id r ↔ (after cs).ids.length + 1 < 2 ^ 31) := by
  have h := counted_after cs
  have hr := insert_of_not_found (findByIdentity_eq_none_iff.mpr ha)
  rw [h.next] at hr
  refine ⟨_, _, hr, rfl, h.ids, fun c => h.wellKept.mem_insert_cards hr, ?_⟩
  constructor
  · intro hfresh
    by_contra hmany
    exact h.stale (Nat.le_of_not_lt hmany) hfresh
  · exact fun hfew => h.fresh hfew hr

theorem insertion_fresh_after_removal :
    let cs := [.insert ⟨"Alice", "CS", .student⟩, .insert ⟨"Bob", "CS", .teacher⟩, .deleteById 2]
    ¬(after cs).register.Holds ⟨"Carol", "EE", .student⟩ ∧
      ∃ r, (after cs).register.insert ⟨"Carol", "EE", .student⟩ = (.ok 3, r) ∧
        (after cs).Fresh 3 r := by
  intro cs
  have ha : ¬(after cs).register.Holds ⟨"Carol", "EE", .student⟩ := by decide
  obtain ⟨id, r, hr, rfl, -, -, hfresh⟩ := insertion_fresh_iff cs ha
  exact ⟨ha, r, hr, hfresh.mpr (by decide)⟩

def churn (a : Application) : Int32 → Nat → List Call
  | _, 0 => []
  | id, n + 1 => .insert a :: .deleteById (id + 1) :: churn a (id + 1) n

theorem filter_place {id : Int32} {c : Card} {rows : List (Int32 × Card)}
    (h : ∀ row ∈ rows, row.1 ≠ id) :
    (place id c rows).filter (fun row => row.1 ≠ id) = rows := by
  have hrows (rows : List (Int32 × Card)) (h : ∀ row ∈ rows, row.1 ≠ id) :
      rows.filter (fun row => row.1 ≠ id) = rows := by
    simpa [List.filter_eq_self] using h
  induction rows with
  | nil => simp [place]
  | cons row rows ih =>
    obtain ⟨k, d⟩ := row
    obtain ⟨hk, hrest⟩ := List.forall_mem_cons.mp h
    rw [place]
    split
    · rw [List.filter_cons_of_neg (by simp), hrows _ h]
    split
    · rename_i hid
      exact absurd hid.symm hk
    · rw [List.filter_cons_of_pos (by simpa using hk), ih hrest]

theorem register_put_put (ha : ¬t.register.Holds a)
    (hfree : ∀ row ∈ t.register.rows, row.1 ≠ t.register.lastId + 1) :
    ((t.put (.insert a)).put (.deleteById (t.register.lastId + 1))).register =
      ⟨t.register.lastId + 1, t.register.rows⟩ := by
  have hr := insert_of_not_found (findByIdentity_eq_none_iff.mpr ha)
  simp only [put, answer, hr, Register.deleteById]
  rw [filter_place hfree]

theorem add_ofNat_succ (id : Int32) (n : Nat) :
    id + Int32.ofNat (n + 1) = id + 1 + Int32.ofNat n := by
  rw [Nat.add_comm, Int32.ofNat_add, Int32.add_assoc]
  rfl

theorem register_churn {id : Int32} {n : Nat} {rows : List (Int32 × Card)}
    (ht : t.register = ⟨id, rows⟩) (ha : ¬t.register.Holds a)
    (hfree : ∀ k < n, ∀ row ∈ rows, row.1 ≠ id + Int32.ofNat (k + 1)) :
    ((churn a id n).foldl put t).register = ⟨id + Int32.ofNat n, rows⟩ := by
  induction n generalizing id t with
  | zero => simpa [churn] using ht
  | succ n ih =>
    have hput := @register_put_put t a ha (by rw [ht]; exact hfree 0 (Nat.zero_lt_succ n))
    rw [ht] at hput
    rw [churn, List.foldl_cons, List.foldl_cons, add_ofNat_succ]
    apply ih hput
    · rw [hput]
      rwa [ht] at ha
    · intro k hk row hrow
      rw [← add_ofNat_succ]
      exact hfree (k + 1) (Nat.succ_lt_succ hk) row hrow

theorem register_after_churn (n : Nat) (a : Application) :
    (after (churn a 0 n)).register = ⟨Int32.ofNat n, []⟩ := by
  have h := @register_churn {} a 0 n [] rfl (by simp [Holds, Register.empty, cards]) (by simp)
  rwa [Int32.zero_add] at h

theorem add_ofNat_ne {k : Nat} (id : Int32) (hk : k + 1 < 2 ^ 32) :
    id ≠ id + Int32.ofNat (k + 1) := by
  intro h
  have hbits := congrArg Int32.toBitVec h
  rw [Int32.toBitVec_add, Int32.toBitVec_ofNat'] at hbits
  have hnat := congrArg BitVec.toNat hbits
  have := id.toBitVec.isLt
  rw [BitVec.toNat_add, BitVec.toNat_ofNat] at hnat
  omega

theorem register_after_card_churn {a b : Application} (hne : b ≠ a) {n : Nat} (hn : n < 2 ^ 32) :
    (after (.insert a :: churn b 1 n)).register =
      ⟨Int32.ofNat (n + 1), [(1, a.card 1)]⟩ := by
  have ht : (Tally.put {} (.insert a)).register = ⟨1, [(1, a.card 1)]⟩ := rfl
  have hb : ¬(Tally.put {} (.insert a)).register.Holds b := by
    rw [ht]
    simpa [Holds, cards, Application.card, Card.application] using Ne.symm hne
  have hfree : ∀ k < n, ∀ row ∈ [((1 : Int32), a.card 1)], row.1 ≠ 1 + Int32.ofNat (k + 1) := by
    intro k hk row hrow
    obtain rfl := List.mem_singleton.mp hrow
    exact add_ofNat_ne 1 (by omega)
  rw [after, List.foldl_cons, register_churn ht hb hfree, Nat.add_comm, Int32.ofNat_add]
  rfl

/-- The ids run out: the insertion after the greatest id gives out the least, and one of them is
given out again in the end, by which a card is lost that no one has removed. -/
theorem ids_run_out :
    (¬(after (churn ⟨"Bob", "CS", .teacher⟩ 0 (2 ^ 31 - 1))).register.Holds
        ⟨"Bob", "CS", .teacher⟩ ∧
      ((after (churn ⟨"Bob", "CS", .teacher⟩ 0 (2 ^ 31 - 1))).register.insert
        ⟨"Bob", "CS", .teacher⟩).1 = .ok (-2147483648)) ∧
      ∃ r, (after (.insert ⟨"Alice", "CS", .student⟩ ::
          churn ⟨"Bob", "CS", .teacher⟩ 1 (2 ^ 32 - 1))).register = r ∧
        ¬r.Holds ⟨"Bob", "CS", .teacher⟩ ∧ r.cards = [⟨1, "Alice", "CS", .student⟩] ∧
        (r.insert ⟨"Bob", "CS", .teacher⟩).1 = .ok 1 ∧
        (r.insert ⟨"Bob", "CS", .teacher⟩).2.cards = [⟨1, "Bob", "CS", .teacher⟩] := by
  -- The numbers of rounds are kept from being computed with.
  generalize hm : 2 ^ 31 - 1 = m
  generalize hn : 2 ^ 32 - 1 = n
  have hlast : Int32.ofNat m = 2147483647 := by rw [← hm]; rfl
  have hlast' : Int32.ofNat (n + 1) = 0 := by rw [← hn]; rfl
  rw [register_after_churn, hlast, register_after_card_churn (by decide) (by omega), hlast']
  refine ⟨by decide, _, rfl, by decide⟩

end Tally

end Register

end CardDesk
