import CardDesk.Proofs.Crowd

/-!
A crowd at a register at which nothing goes wrong is served as if one client came after the other,
in the order of the last answers to them. The reason is that an operation which still waits for an
answer may as well begin anew: its look-up changes nothing, and its last call decides by itself.
-/

namespace CardDesk.Crowd

open Operation

variable {ι : Type}

def inTurn (ops : ι → Operation) : List ι → Register → List (ι × Result) × Register
  | [], r => ([], r)
  | i :: is, r =>
    let (x, r) := (ops i).run r
    let (xs, r) := inTurn ops is r
    ((i, x) :: xs, r)

def peaceful (ops : ι → Operation) (r : Register) : Crowd ι Result :=
  enter ops ⟨r, .none⟩

theorem inTurn_append (ops : ι → Operation) (is js : List ι) (r : Register) :
    inTurn ops (is ++ js) r =
      ((inTurn ops is r).1 ++ (inTurn ops js (inTurn ops is r).2).1,
        (inTurn ops js (inTurn ops is r).2).2) := by
  induction is generalizing r with
  | nil => rfl
  | cons i is ih => simp [inTurn, ih]

theorem inTurn_singleton (ops : ι → Operation) (i : ι) (r : Register) :
    inTurn ops [i] r = ([(i, ((ops i).run r).1)], ((ops i).run r).2) :=
  rfl

theorem run_of_not_accepted {o : Operation} (h : o.accepted = false) (r : Register) :
    o.run r = ((o.run .empty).1, r) := by
  obtain ⟨e, he⟩ := dialogue_of_not_accepted h
  rw [Operation.run, Operation.run, he]
  rfl

theorem inTurn_accepted (ops : ι → Operation) (is : List ι) (r : Register) :
    inTurn ops (is.filter fun i => (ops i).accepted) r =
      ((inTurn ops is r).1.filter fun e => (ops e.1).accepted, (inTurn ops is r).2) := by
  induction is generalizing r with
  | nil => rfl
  | cons j is ih =>
    by_cases hj : (ops j).accepted = true
    · simp [inTurn, hj, ih]
    · have hrun := run_of_not_accepted (Bool.eq_false_iff.mpr hj) r
      simp [inTurn, hj, ih, hrun]

theorem mem_of_mem_inTurn {ops : ι → Operation} {is : List ι} {r : Register} {i : ι} {x : Result}
    (h : (i, x) ∈ (inTurn ops is r).1) : i ∈ is := by
  induction is generalizing r with
  | nil => simp [inTurn] at h
  | cons j is ih =>
    rcases List.mem_cons.mp h with h | h
    · cases h
      exact List.mem_cons_self
    · exact List.mem_cons_of_mem _ (ih h)

theorem exists_mem_inTurn {ops : ι → Operation} {is : List ι} {i : ι} (h : i ∈ is)
    (r : Register) : ∃ x, (i, x) ∈ (inTurn ops is r).1 := by
  induction is generalizing r with
  | nil => cases h
  | cons j is ih =>
    rcases List.mem_cons.mp h with rfl | h
    · exact ⟨_, List.mem_cons_self⟩
    · obtain ⟨x, hx⟩ := ih h ((ops j).run r).2
      exact ⟨x, List.mem_cons_of_mem _ hx⟩

theorem run_of_mem_inTurn {ops : ι → Operation} {is : List ι} {r : Register} {i : ι} {x : Result}
    (h : (i, x) ∈ (inTurn ops is r).1) : ∃ r', x = ((ops i).run r').1 := by
  induction is generalizing r with
  | nil => simp [inTurn] at h
  | cons j is ih =>
    rcases List.mem_cons.mp h with h | h
    · cases h
      exact ⟨r, rfl⟩
    · exact ih h

variable [DecidableEq ι]

theorem dedup_concat (is : List ι) (i : ι) :
    (is ++ [i]).dedup = (is.dedup.filter fun j => j ≠ i) ++ [i] := by
  induction is with
  | nil => simp
  | cons j is ih =>
    by_cases hji : j = i
    · subst hji
      rw [List.cons_append, List.dedup_cons_of_mem (by simp), ih]
      by_cases hj : j ∈ is
      · rw [List.dedup_cons_of_mem hj]
      · rw [List.dedup_cons_of_notMem hj]
        simp
    · by_cases hj : j ∈ is
      · rw [List.cons_append, List.dedup_cons_of_mem (by simp [hj]), ih, List.dedup_cons_of_mem hj]
      · rw [List.cons_append, List.dedup_cons_of_notMem (by simp [hj, hji]), ih,
          List.dedup_cons_of_notMem hj, List.filter_cons_of_pos (by simpa using hji),
          List.cons_append]

theorem step_idle {s : Crowd ι Result} {i : ι}
    (h : (s.client i).turn s.world = (s.client i, none, s.world)) : s.step (.turn i) = s := by
  simp [step, h]

theorem step_ask {s : Crowd ι Result} {i : ι} {c : Call}
    {k : Except StoreError c.Answer → Dialogue Result} (hw : s.world.script = .none)
    (hi : s.client i = .ready (.ask c k)) :
    s.step (.turn i) =
      ⟨⟨(Register.answer c s.world.register).2, .none⟩,
        Function.update s.client i (.ready (k (Register.answer c s.world.register).1).quiet),
        s.answered ++ [(i, c)]⟩ := by
  simp [step, hi, Client.turn_ask hw]

/-- The calls of clients that count as served, whichever of those that left are counted in. -/
def Counts (s : Crowd ι Result) (p : ι → Bool) : Prop :=
  ∀ i, (s.changed i = true → p i = true) ∧ (p i = true → s.served i = true)

/-- A crowd that could have come to where it is one client after the other. -/
structure Orderly (ops : ι → Operation) (start : Register) (s : Crowd ι Result) : Prop where
  script : s.world.script = .none
  stages : ∀ i, s.client i = .gone ∨ ∃ d, s.client i = .ready d ∧ Stage (ops i) d
  unchanged : ∀ i c k, s.client i = .ready (.ask c k) → s.changed i = false
  refused : ∀ i d, (ops i).accepted = false → s.client i = .ready d → d = (ops i).dialogue
  answered : ∀ i x, (ops i).accepted = true → s.client i = .ready (.done x) → i ∈ s.lastAnswers
  accepted : ∀ e ∈ s.answered, (ops e.1).accepted = true
  serial : ∀ p, Counts s p →
    (inTurn ops (s.lastAnswers.filter p) start).2 = s.world.register ∧
      ∀ i x y, (i, x) ∈ (inTurn ops (s.lastAnswers.filter p) start).1 →
        (s.client i).result? = some y → x = y

theorem Orderly.begins (ops : ι → Operation) (start : Register) :
    Orderly ops start (peaceful ops start) where
  script := rfl
  stages i := .inr ⟨_, enter_client ops _ i, .begun⟩
  unchanged _ _ _ _ := rfl
  refused i d _ hi := by
    rw [peaceful, enter_client] at hi
    cases hi
    rfl
  answered i x ha hi := by
    obtain ⟨c, k, hk⟩ := dialogue_of_accepted ha
    rw [peaceful, enter_client, hk] at hi
    cases hi
  accepted e he := by cases he
  serial p hp := by
    refine ⟨rfl, ?_⟩
    intro i x y hi
    simp [peaceful, enter, gather, lastAnswers, inTurn] at hi

theorem Orderly.served_of_changed {ops : ι → Operation} {start : Register} {s : Crowd ι Result}
    (h : Orderly ops start s) {i : ι} (hi : s.changed i = true) : s.served i = true := by
  rcases h.stages i with hg | ⟨d, hd, hs⟩
  · rw [served, hg]
    exact hi
  · obtain ⟨x, rfl⟩ | ⟨c, k, rfl⟩ := hs.cases
    · rw [served, hd]
      rfl
    · rw [h.unchanged i c k hd] at hi
      cases hi

theorem Orderly.leave {ops : ι → Operation} {start : Register} {s : Crowd ι Result}
    (h : Orderly ops start s) (i : ι) : Orderly ops start (s.step (.leave i)) := by
  have hself : (s.step (.leave i)).client i = .gone := Function.update_self ..
  have hother {j : ι} (hj : j ≠ i) : (s.step (.leave i)).client j = s.client j :=
    step_client_of_ne s hj
  have hclient {j : ι} {d : Dialogue Result} (hd : (s.step (.leave i)).client j = .ready d) :
      s.client j = .ready d := by
    by_cases hj : j = i
    · rw [hj, hself] at hd
      cases hd
    · rwa [hother hj] at hd
  constructor
  case script => exact h.script
  case stages =>
    intro j
    by_cases hj : j = i
    · exact .inl (hj ▸ hself)
    · rw [hother hj]
      exact h.stages j
  case unchanged => exact fun j c k hd => h.unchanged j c k (hclient hd)
  case refused => exact fun j d ha hd => h.refused j d ha (hclient hd)
  case answered => exact fun j x ha hd => h.answered j x ha (hclient hd)
  case accepted => exact h.accepted
  case serial =>
    intro p hp
    have hold : Counts s p := by
      intro j
      refine ⟨(hp j).1, fun hpj => ?_⟩
      have hserved := (hp j).2 hpj
      by_cases hj : j = i
      · rw [hj, served, hself] at hserved
        exact hj ▸ h.served_of_changed hserved
      · rwa [step_served_of_ne s hj] at hserved
    obtain ⟨hr, hx⟩ := h.serial p hold
    refine ⟨hr, fun j x y hmem hy => ?_⟩
    by_cases hj : j = i
    · rw [hj, hself] at hy
      cases hy
    · rw [hother hj] at hy
      exact hx j x y hmem hy

section Ask

variable {ops : ι → Operation} {start : Register} {s : Crowd ι Result} {i : ι} {c : Call}
  {k : Except StoreError c.Answer → Dialogue Result}

theorem Orderly.client_ask (h : Orderly ops start s) (hi : s.client i = .ready (.ask c k)) :
    (s.step (.turn i)).client i = .ready (k (Register.answer c s.world.register).1).quiet := by
  rw [step_ask h.script hi]
  exact Function.update_self ..

theorem Orderly.changed_ask (h : Orderly ops start s) (hi : s.client i = .ready (.ask c k)) :
    (s.step (.turn i)).changed i = c.mutates := by
  have hstill := h.unchanged i c k hi
  rw [changed] at hstill
  rw [step_ask h.script hi, changed, List.any_append, hstill]
  simp

theorem Orderly.lastAnswers_ask (h : Orderly ops start s) (hi : s.client i = .ready (.ask c k))
    (p : ι → Bool) :
    (s.step (.turn i)).lastAnswers.filter p =
      (s.lastAnswers.filter fun j => p j && decide (j ≠ i)) ++ bif p i then [i] else [] := by
  rw [step_ask h.script hi, lastAnswers, List.map_append, List.map_singleton, dedup_concat,
    List.filter_append, List.filter_filter, List.filter_singleton]
  rfl

theorem Orderly.serial_ask (h : Orderly ops start s) (hi : s.client i = .ready (.ask c k))
    (hs : Stage (ops i) (.ask c k)) (p : ι → Bool) (hp : Counts (s.step (.turn i)) p) :
    (inTurn ops ((s.step (.turn i)).lastAnswers.filter p) start).2 =
        (s.step (.turn i)).world.register ∧
      ∀ j x y, (j, x) ∈ (inTurn ops ((s.step (.turn i)).lastAnswers.filter p) start).1 →
        ((s.step (.turn i)).client j).result? = some y → x = y := by
  have hold : Counts s fun j => p j && decide (j ≠ i) := by
    intro j
    by_cases hj : j = i
    · rw [hj, h.unchanged i c k hi]
      simp
    · have := hp j
      rw [step_changed_of_ne s hj, step_served_of_ne s hj] at this
      simpa [hj] using this
  obtain ⟨hr, hx⟩ := h.serial _ hold
  have hothers {j x y} (hmem : (j, x) ∈ (inTurn ops (s.lastAnswers.filter fun j =>
      p j && decide (j ≠ i)) start).1) (hy : ((s.step (.turn i)).client j).result? = some y) :
      x = y := by
    have hj : j ≠ i := by
      have := (List.mem_filter.mp (mem_of_mem_inTurn hmem)).2
      simpa using (Bool.and_eq_true_iff.mp this).2
    rw [step_client_of_ne s hj] at hy
    exact hx j x y hmem hy
  rw [h.lastAnswers_ask hi]
  cases hpi : p i with
  | false =>
    -- The client is left out, so it cannot have changed anything.
    have hc : c.mutates = false := by
      rw [← h.changed_ask hi]
      by_contra hn
      rw [(hp i).1 (by simpa using hn)] at hpi
      cases hpi
    rw [cond_false, List.append_nil, hr, step_ask h.script hi]
    refine ⟨(Register.answer_of_not_mutates hc _).symm, ?_⟩
    intro j x y hmem hy
    rw [← step_ask h.script hi] at hy
    exact hothers hmem hy
  | true =>
    -- This was the last answer: the client could as well have come only now, after all others.
    have hself := h.client_ask hi
    have hserved := (hp i).2 hpi
    obtain ⟨y, hy⟩ : ∃ y, (k (Register.answer c s.world.register).1).quiet = .done y := by
      obtain hd | ⟨c', k', hd⟩ := (hs.next (Register.answer c s.world.register).1).cases
      · exact hd
      · rw [served, hself, hd] at hserved
        cases hserved
    have hrun := hs.run_of_ends hy
    rw [cond_true, inTurn_append, hr, inTurn_singleton, hrun]
    constructor
    · rw [step_ask h.script hi]
    · intro j x z hmem hz
      rcases List.mem_append.mp hmem with hmem | hmem
      · exact hothers hmem hz
      · rw [List.mem_singleton] at hmem
        cases hmem
        rw [hself, hy] at hz
        cases hz
        rfl

theorem Orderly.ask (h : Orderly ops start s) (hi : s.client i = .ready (.ask c k))
    (hs : Stage (ops i) (.ask c k)) : Orderly ops start (s.step (.turn i)) := by
  have hself := h.client_ask hi
  have hother {j : ι} (hj : j ≠ i) : (s.step (.turn i)).client j = s.client j :=
    step_client_of_ne s hj
  constructor
  case script => rw [step_ask h.script hi]
  case stages =>
    intro j
    by_cases hj : j = i
    · subst hj
      exact .inr ⟨_, hself, hs.next _⟩
    · rw [hother hj]
      exact h.stages j
  case unchanged =>
    intro j c' k' hd
    by_cases hj : j = i
    · subst hj
      rw [h.changed_ask hi, Bool.eq_false_iff]
      intro hc
      obtain ⟨y, hy⟩ := hs.ends_of_mutates hc (Register.answer c s.world.register).1
      rw [hself, hy] at hd
      cases hd
    · rw [step_changed_of_ne s hj]
      exact h.unchanged j c' k' (hother hj ▸ hd)
  case refused =>
    intro j d ha hd
    by_cases hj : j = i
    · rw [hj, hs.ask_cases.1] at ha
      cases ha
    · exact h.refused j d ha (hother hj ▸ hd)
  case answered =>
    intro j x ha hd
    rw [step_ask h.script hi, lastAnswers, List.mem_dedup, List.map_append]
    by_cases hj : j = i
    · exact List.mem_append_right _ (by simp [hj])
    · exact List.mem_append_left _ (List.mem_dedup.mp (h.answered j x ha (hother hj ▸ hd)))
  case accepted =>
    intro e he
    rw [step_ask h.script hi] at he
    rcases List.mem_append.mp he with he | he
    · exact h.accepted e he
    · rw [List.mem_singleton.mp he]
      exact hs.ask_cases.1
  case serial => exact h.serial_ask hi hs

end Ask

theorem Orderly.step {ops : ι → Operation} {start : Register} {s : Crowd ι Result}
    (h : Orderly ops start s) (m : Move ι) : Orderly ops start (s.step m) := by
  cases m with
  | leave i => exact h.leave i
  | turn i =>
    rcases h.stages i with hi | ⟨d, hi, hs⟩
    · rwa [step_idle (by rw [hi]; rfl)]
    · obtain ⟨x, rfl⟩ | ⟨c, k, rfl⟩ := hs.cases
      · rwa [step_idle (by rw [hi]; rfl)]
      · exact h.ask hi hs

theorem Orderly.filter_order {ops : ι → Operation} {start : Register} {s : Crowd ι Result}
    (h : Orderly ops start s) : s.order.filter (fun i => (ops i).accepted) = s.order := by
  apply List.filter_eq_self.mpr
  intro i hi
  rw [order, List.mem_filter, lastAnswers, List.mem_dedup] at hi
  obtain ⟨e, he, rfl⟩ := List.mem_map.mp hi.1
  exact h.accepted e he

theorem Orderly.counts {ops : ι → Operation} {start : Register} {s : Crowd ι Result}
    (h : Orderly ops start s) : Counts s s.served :=
  fun _ => ⟨h.served_of_changed, id⟩

theorem sublist_dedup {is js : List ι} {i j : ι} (hi : i ∈ is) (hi' : i ∉ js) (hj : j ∈ js) :
    [i, j].Sublist (is ++ js).dedup := by
  induction is with
  | nil => cases hi
  | cons l is ih =>
    by_cases hl : l ∈ is ++ js
    · rw [List.cons_append, List.dedup_cons_of_mem hl]
      rcases List.mem_cons.mp hi with rfl | hi
      · exact ih ((List.mem_append.mp hl).resolve_right hi')
      · exact ih hi
    · rw [List.cons_append, List.dedup_cons_of_notMem hl]
      rcases List.mem_cons.mp hi with rfl | hi
      · apply List.Sublist.cons_cons
        rw [List.singleton_sublist, List.mem_dedup]
        exact List.mem_append_right _ hj
      · exact (ih hi).cons l

theorem sublist_order {s : Crowd ι Result} {before after : List (ι × Call)} {i j : ι}
    (h : s.answered = before ++ after) (hi : i ∈ s.order) (hi' : i ∉ after.map Prod.fst)
    (hj : j ∈ s.order) (hj' : j ∈ after.map Prod.fst) : [i, j].Sublist s.order := by
  rw [order, List.mem_filter, lastAnswers, List.mem_dedup, h, List.map_append,
    List.mem_append] at hi hj
  have hsub := (sublist_dedup (hi.1.resolve_right hi') hi' hj').filter s.served
  rw [List.filter_cons_of_pos hi.2, List.filter_cons_of_pos hj.2, List.filter_nil] at hsub
  rwa [order, lastAnswers, h, List.map_append]

/-- Whatever moves the clients make, serving them one after the other in the order of the last
answers to them gives every client the same result and the same register in the end. Refused
applications may come anywhere, and a client that has left comes in only if it has changed the
register. -/
theorem linearizable (ops : ι → Operation) (start : Register) (moves : List (Move ι)) :
    let s := (peaceful ops start).run moves
    s.order.filter (fun i => (ops i).accepted) = s.order ∧
      ∀ order : List ι, order.filter (fun i => (ops i).accepted) = s.order →
        (inTurn ops order start).2 = s.world.register ∧
          (∀ i x, (s.client i).result? = some x → ((ops i).accepted = true → i ∈ order) ∧
            ∀ y, (i, y) ∈ (inTurn ops order start).1 → y = x) ∧
          ∀ before after, s.answered = before ++ after →
            ∀ i ∈ s.order, i ∉ after.map Prod.fst → ∀ j ∈ s.order, j ∈ after.map Prod.fst →
              [i, j].Sublist order := by
  intro s
  have h : Orderly ops start s := run_keeps (.begins ops start) fun _ m _ hs => hs.step m
  generalize s = s at h
  refine ⟨h.filter_order, fun order horder => ?_⟩
  obtain ⟨hr, hx⟩ := h.serial _ h.counts
  rw [← Crowd.order, ← horder, inTurn_accepted] at hr hx
  refine ⟨hr, ?_, ?_⟩
  · intro i x hi
    have hd := Client.result?_eq_some_iff.mp hi
    refine ⟨fun ha => ?_, fun y hmem => ?_⟩
    · have hserved : i ∈ s.order :=
        List.mem_filter.mpr ⟨h.answered i x ha hd, by rw [served, hd]; rfl⟩
      rw [← horder] at hserved
      exact (List.mem_filter.mp hserved).1
    · cases ha : (ops i).accepted with
      | true => exact hx i y x (List.mem_filter.mpr ⟨hmem, ha⟩) hi
      | false =>
        obtain ⟨r, rfl⟩ := run_of_mem_inTurn hmem
        rw [Operation.run, ← h.refused i _ ha hd, Dialogue.outcome_done]
  · intro before after hsplit i hi hi' j hj hj'
    have hsub := sublist_order hsplit hi hi' hj hj'
    rw [← horder] at hsub
    exact hsub.trans List.filter_sublist

/-- Two registrations of one card that both find nothing at first, a blank application and the
removal of a card by a client that leaves too early. -/
theorem linearizable_race :
    let ops : Nat → Operation
      | 2 => .register ⟨"", "CS", .teacher⟩
      | 3 => .remove 1
      | _ => .register ⟨"Alice", "CS", .student⟩
    let s := (peaceful ops .empty).run [.turn 0, .turn 1, .turn 1, .turn 3, .leave 3, .turn 0]
    [1, 2, 0].filter (fun i => (ops i).accepted) = s.order ∧
      (inTurn ops [1, 2, 0] .empty).2 = s.world.register ∧
      (s.client 0).result? = some (.error .alreadyExists) ∧
      ∀ x, (0, x) ∈ (inTurn ops [1, 2, 0] .empty).1 → x = .error .alreadyExists := by
  intro ops s
  have horder : [1, 2, 0].filter (fun i => (ops i).accepted) = s.order := by decide
  have h := (linearizable ops .empty [.turn 0, .turn 1, .turn 1, .turn 3, .leave 3, .turn 0]).2
    [1, 2, 0] horder
  have hzero : (s.client 0).result? = some (.error .alreadyExists) := by decide
  exact ⟨horder, h.1, hzero, (h.2.1 0 _ hzero).2⟩

end CardDesk.Crowd
