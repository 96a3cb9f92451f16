import CardDesk.Proofs.History
import CardDesk.Proofs.Session
import CardDesk.Proofs.Talk

/-!
Requests whose time runs out. A request changes the register by its last call at most, so that one
which has been abandoned has done either nothing or all that it was to do.
-/

namespace CardDesk

variable {α β : Type}

def Mishap.Delays : Option Mishap → Prop
  | none | some .hang | some (.before _) | some (.after _) => True
  | some (.fail _) | some .absent | some .ghost => False

def Script.Delaying (s : Script) : Prop :=
  ∀ m, ∀ e ∈ s m, Mishap.Delays e

theorem Script.Delaying.next {s : Script} (h : s.Delaying) (c : Call) : (s.next c).Delaying := by
  intro m e he
  rw [Script.next] at he
  split at he
  · exact h m e (List.mem_of_mem_tail he)
  · exact h m e he

theorem Script.Delaying.course {s : Script} (h : s.Delaying) (c : Call) :
    Mishap.course (s.entry c) c = .never ∨
      ∃ before after, Mishap.course (s.entry c) c = .passed before after := by
  have hentry : Mishap.Delays (s.entry c) := by
    rw [Script.entry]
    cases hs : s c.method with
    | nil => trivial
    | cons e rest => exact h c.method e (hs ▸ List.mem_cons_self)
  generalize s.entry c = entry at hentry ⊢
  rcases entry with _ | (_ | _ | _ | _ | _ | _)
  case none => exact .inr ⟨0, 0, rfl⟩
  case some.hang => exact .inl rfl
  case some.before ms => exact .inr ⟨ms, 0, rfl⟩
  case some.after ms => cases c <;> exact .inr ⟨_, _, rfl⟩
  all_goals cases hentry

theorem reached_some {limit time : Nat} : reached (some limit) time = true ↔ limit ≤ time := by
  rw [reached, decide_eq_true_eq]

theorem Talk.changes_of_not_mutates {c : Call} (h : c.mutates = false)
    (x : Except StoreError c.Answer) : Talk.changes ⟨c, x⟩ = false := by
  cases c with
  | insert a => cases h
  | deleteById id => cases h
  | _ => rfl

namespace Register

theorem answer_of_changes {c : Call} {r : Register}
    (h : Talk.changes ⟨c, (answer c r).1⟩ = true) : (answer c r).2 ≠ r := by
  cases c with
  | insert a =>
    cases hf : r.findByIdentity a with
    | some c => simp [answer, insert_of_found hf, Talk.changes] at h
    | none =>
      rw [answer, insert_of_not_found hf]
      intro he
      have hid : r.lastId + 1 = r.lastId := congrArg lastId he
      grind
  | deleteById id =>
    cases hf : r.findById id with
    | some c =>
      rw [answer, deleteById_of_found hf]
      intro he
      obtain ⟨row, hrow, hid⟩ := List.any_eq_true.mp ((findById_isSome_iff r id).mp ⟨c, hf⟩)
      have hrows : (r.rows.filter fun row => row.1 ≠ id) = r.rows := congrArg rows he
      have := List.filter_eq_self.mp hrows row hrow
      simp_all
    | none => simp [answer, deleteById_of_not_found hf, Talk.changes] at h
  | _ => simp [Talk.changes] at h

theorem answer_of_not_changes {c : Call} {r : Register}
    (h : Talk.changes ⟨c, (answer c r).1⟩ = false) : (answer c r).2 = r := by
  cases c with
  | insert a =>
    cases hf : r.findByIdentity a with
    | some c => rw [answer, insert_of_found hf]
    | none => simp [answer, insert_of_not_found hf, Talk.changes] at h
  | deleteById id =>
    cases hf : r.findById id with
    | some c => simp [answer, deleteById_of_found hf, Talk.changes] at h
    | none => rw [answer, deleteById_of_not_found hf]
  | _ => rfl

end Register

namespace Dialogue

def finishes : Dialogue α → World → Option Nat
  | done _, _ => some 0
  | note _ d, w => d.finishes w
  | ask c k, w =>
    match w.begin c with
    | (.never, _) => none
    | (.answered x, w) => (k x).finishes w
    | (.passed before after, w) =>
      ((k (w.settle c).1).finishes (w.settle c).2).map fun t => before + after + t

def timeline : Dialogue α → Nat → World → List (Nat × Talk)
  | done _, _, _ => []
  | note _ d, now, w => d.timeline now w
  | ask c k, now, w =>
    match w.begin c with
    | (.never, _) => []
    | (.answered x, w) => (k x).timeline now w
    | (.passed before after, w) =>
      (now + before, ⟨c, (w.settle c).1⟩) ::
        (k (w.settle c).1).timeline (now + before + after) (w.settle c).2

/-- A dialogue that puts no call which may change anything but as its last. -/
inductive ChangesLast : Dialogue α → Prop
  | done (a : α) : ChangesLast (done a)
  | note {r : Record} {d : Dialogue α} (h : ChangesLast d) : ChangesLast (note r d)
  | look {c : Call} {k : Except StoreError c.Answer → Dialogue α} (hc : c.mutates = false)
    (h : ∀ x, ChangesLast (k x)) : ChangesLast (ask c k)
  | change {c : Call} {k : Except StoreError c.Answer → Dialogue α}
    (h : ∀ x, (k x).Asks fun _ => False) : ChangesLast (ask c k)

theorem ChangesLast.of_silent {d : Dialogue α} (h : d.Asks fun _ => False) : ChangesLast d := by
  induction d with
  | done a => exact .done a
  | note r d ih => exact .note (ih h)
  | ask c k => exact h.1.elim

theorem ChangesLast.bind {d : Dialogue α} {f : α → Dialogue β} (h : ChangesLast d)
    (hf : ∀ a, (f a).Asks fun _ => False) : ChangesLast (d.bind f) := by
  induction h with
  | done a => exact .of_silent (hf a)
  | note _ ih => exact .note ih
  | look hc _ ih => exact .look hc ih
  | change h => exact .change fun x => (h x).bind hf

section Passed

variable {c : Call} {k : Except StoreError c.Answer → Dialogue α} {w : World} {before after : Nat}

theorem finishes_passed (h : Mishap.course (w.script.entry c) c = .passed before after) :
    (ask c k).finishes w = ((k (Register.answer c w.register).1).finishes
      ⟨(Register.answer c w.register).2, w.script.next c⟩).map fun t => before + after + t := by
  rw [finishes, World.begin_eq, h]
  rfl

theorem timeline_passed (h : Mishap.course (w.script.entry c) c = .passed before after)
    (now : Nat) :
    (ask c k).timeline now w = (now + before, ⟨c, (Register.answer c w.register).1⟩) ::
      (k (Register.answer c w.register).1).timeline (now + before + after)
        ⟨(Register.answer c w.register).2, w.script.next c⟩ := by
  rw [timeline, World.begin_eq, h]
  rfl

theorem within_passed (h : Mishap.course (w.script.entry c) c = .passed before after)
    (limit now : Nat) :
    (ask c k).within (some limit) now w = Outcome.after (.call c)
      (if limit ≤ now + before then ⟨none, [], ⟨w.register, w.script.next c⟩⟩
      else if limit ≤ now + before + after then
        ⟨none, [], ⟨(Register.answer c w.register).2, w.script.next c⟩⟩
      else (k (Register.answer c w.register).1).within (some limit) (now + before + after)
        ⟨(Register.answer c w.register).2, w.script.next c⟩) := by
  rw [within, World.begin_eq, h]
  simp only [reached_some]
  rfl

end Passed

theorem finishes_never {c : Call} {k : Except StoreError c.Answer → Dialogue α} {w : World}
    (h : Mishap.course (w.script.entry c) c = .never) : (ask c k).finishes w = none := by
  rw [finishes, World.begin_eq, h]

theorem timeline_never {c : Call} {k : Except StoreError c.Answer → Dialogue α} {w : World}
    (h : Mishap.course (w.script.entry c) c = .never) (now : Nat) :
    (ask c k).timeline now w = [] := by
  rw [timeline, World.begin_eq, h]

theorem within_never {c : Call} {k : Except StoreError c.Answer → Dialogue α} {w : World}
    (h : Mishap.course (w.script.entry c) c = .never) (limit now : Nat) :
    (ask c k).within (some limit) now w =
      ⟨none, [.call c], ⟨w.register, w.script.next c⟩⟩ := by
  rw [within, World.begin_eq, h]
  rfl

@[simp] theorem after_result (e : Event) (o : Outcome α) : (o.after e).result = o.result :=
  rfl

@[simp] theorem after_world (e : Event) (o : Outcome α) : (o.after e).world = o.world :=
  rfl

theorem within_delaying (d : Dialogue α) (limit now : Nat) {w : World} (hw : w.script.Delaying) :
    (d.within (some limit) now w).world.script.Delaying := by
  induction d generalizing now w with
  | done a => exact hw
  | note r d ih => exact ih now hw
  | ask c k ih =>
    obtain h | ⟨before, after, h⟩ := hw.course c
    · rw [within_never h]
      exact hw.next c
    · rw [within_passed h, after_world]
      split
      · exact hw.next c
      split
      · exact hw.next c
      · exact ih _ _ (hw.next c)

theorem within_of_finishes {d : Dialogue α} {limit now t : Nat} {w : World}
    (hw : w.script.Delaying) (h : d.finishes w = some t) (ht : now + t < limit) :
    (d.within (some limit) now w).result = some (d.outcome w.register).1 ∧
      (d.within (some limit) now w).world.register = (d.outcome w.register).2 := by
  induction d generalizing now t w with
  | done a => exact ⟨rfl, rfl⟩
  | note r d ih => exact ih hw h ht
  | ask c k ih =>
    obtain hc | ⟨before, after, hc⟩ := hw.course c
    · rw [finishes_never hc] at h
      cases h
    · rw [finishes_passed hc, Option.map_eq_some_iff] at h
      obtain ⟨rest, hrest, rfl⟩ := h
      rw [within_passed hc, if_neg (by omega), if_neg (by omega)]
      exact ih _ (hw.next c) hrest (by omega)

theorem within_of_late {d : Dialogue α} {limit now : Nat} {w : World} (hw : w.script.Delaying)
    (hnow : now < limit) (h : ∀ t, d.finishes w = some t → limit ≤ now + t) :
    (d.within (some limit) now w).result = none := by
  induction d generalizing now w with
  | done a =>
    have := h 0 rfl
    omega
  | note r d ih => exact ih hw hnow h
  | ask c k ih =>
    obtain hc | ⟨before, after, hc⟩ := hw.course c
    · rw [within_never hc]
    · rw [within_passed hc, after_result]
      split
      · rfl
      split
      · rfl
      · rename_i hafter
        apply ih _ (hw.next c) (by omega)
        intro t ht
        have := h (before + after + t) (by rw [finishes_passed hc, ht, Option.map_some])
        omega

theorem timeline_of_silent {d : Dialogue α} (h : d.Asks fun _ => False) (now : Nat) (w : World) :
    d.timeline now w = [] := by
  induction d with
  | done a => rfl
  | note r d ih => exact ih h
  | ask c k => exact h.1.elim

theorem within_of_silent {d : Dialogue α} (h : d.Asks fun _ => False) (limit : Option Nat)
    (now : Nat) (w : World) : (d.within limit now w).world = w := by
  induction d with
  | done a => rfl
  | note r d ih => exact ih h
  | ask c k => exact h.1.elim

theorem outcome_of_silent {d : Dialogue α} (h : d.Asks fun _ => False) (r : Register) :
    (d.outcome r).2 = r := by
  induction d with
  | done a => rfl
  | note record d ih => exact ih h
  | ask c k => exact h.1.elim

/-- What a dialogue has changed in time. -/
def Effective (d : Dialogue α) (limit now : Nat) (w : World) : Prop :=
  ∃ e ∈ d.timeline now w, e.1 < limit ∧ e.2.changes = true

theorem le_of_mem_timeline {d : Dialogue α} {now : Nat} {w : World} (hw : w.script.Delaying)
    {e : Nat × Talk} (he : e ∈ d.timeline now w) : now ≤ e.1 := by
  induction d generalizing now w with
  | done a => cases he
  | note r d ih => exact ih hw he
  | ask c k ih =>
    obtain hc | ⟨before, after, hc⟩ := hw.course c
    · rw [timeline_never hc] at he
      cases he
    · rw [timeline_passed hc] at he
      rcases List.mem_cons.mp he with rfl | he
      · exact Nat.le_add_right _ _
      · have := ih _ (hw.next c) he
        omega

theorem not_effective {d : Dialogue α} {limit now : Nat} {w : World} (hw : w.script.Delaying)
    (h : limit ≤ now) : ¬d.Effective limit now w := by
  rintro ⟨e, he, hlt, -⟩
  have := le_of_mem_timeline hw he
  omega

section Passed

variable {c : Call} {k : Except StoreError c.Answer → Dialogue α} {w : World} {before after : Nat}

theorem effective_passed (h : Mishap.course (w.script.entry c) c = .passed before after)
    (limit now : Nat) :
    (ask c k).Effective limit now w ↔
      (now + before < limit ∧ Talk.changes ⟨c, (Register.answer c w.register).1⟩ = true) ∨
        (k (Register.answer c w.register).1).Effective limit (now + before + after)
          ⟨(Register.answer c w.register).2, w.script.next c⟩ := by
  rw [Effective, timeline_passed h]
  constructor
  · rintro ⟨e, he, hlt, hchanges⟩
    rcases List.mem_cons.mp he with rfl | he
    · exact .inl ⟨hlt, hchanges⟩
    · exact .inr ⟨e, he, hlt, hchanges⟩
  · rintro (⟨hlt, hchanges⟩ | ⟨e, he, hlt, hchanges⟩)
    · exact ⟨_, List.mem_cons_self, hlt, hchanges⟩
    · exact ⟨e, List.mem_cons_of_mem _ he, hlt, hchanges⟩

theorem effective_passed_of_silent (h : Mishap.course (w.script.entry c) c = .passed before after)
    (hk : (k (Register.answer c w.register).1).Asks fun _ => False) (limit now : Nat) :
    (ask c k).Effective limit now w ↔
      now + before < limit ∧ Talk.changes ⟨c, (Register.answer c w.register).1⟩ = true := by
  rw [Effective, timeline_passed h, timeline_of_silent hk]
  simp

theorem within_passed_of_silent (h : Mishap.course (w.script.entry c) c = .passed before after)
    (hk : (k (Register.answer c w.register).1).Asks fun _ => False) (limit now : Nat) :
    ((ask c k).within (some limit) now w).world.register =
      if limit ≤ now + before then w.register else (Register.answer c w.register).2 := by
  rw [within_passed h, after_world]
  split
  · rfl
  split
  · rfl
  · rw [within_of_silent hk]

end Passed

theorem not_effective_never {c : Call} {k : Except StoreError c.Answer → Dialogue α} {w : World}
    (h : Mishap.course (w.script.entry c) c = .never) (limit now : Nat) :
    ¬(ask c k).Effective limit now w := by
  rw [Effective, timeline_never h]
  simp

theorem ChangesLast.within {d : Dialogue α} (h : ChangesLast d) (limit now : Nat) {w : World}
    (hw : w.script.Delaying) :
    (d.Effective limit now w → (d.within (some limit) now w).world.register =
        (d.outcome w.register).2 ∧ (d.outcome w.register).2 ≠ w.register) ∧
      (¬d.Effective limit now w → (d.within (some limit) now w).world.register = w.register) := by
  induction h generalizing now w with
  | done a =>
    refine ⟨?_, fun _ => rfl⟩
    rintro ⟨e, he, -⟩
    cases he
  | note _ ih => exact ih now hw
  | @look c k hlook _ ih =>
    obtain hc | ⟨before, after, hc⟩ := hw.course c
    · rw [within_never hc]
      exact ⟨fun h => absurd h (not_effective_never hc limit now), fun _ => rfl⟩
    · -- The register stays as it is, so that the rest does what it would do from the beginning.
      have hr := Register.answer_of_not_mutates hlook w.register
      have hno := Talk.changes_of_not_mutates hlook (Register.answer c w.register).1
      let w' : World := ⟨w.register, w.script.next c⟩
      have hw' : w'.script.Delaying := hw.next c
      rw [within_passed hc, effective_passed hc, outcome_ask, after_world, hr, hno]
      simp only [Bool.false_eq_true, and_false, false_or]
      by_cases hlate : limit ≤ now + before + after
      · refine ⟨fun h => absurd h (not_effective hw' hlate), fun _ => ?_⟩
        rw [if_pos hlate]
        split <;> rfl
      · rw [if_neg (by omega), if_neg hlate]
        exact ih _ _ hw'
  | @change c k hk =>
    obtain hc | ⟨before, after, hc⟩ := hw.course c
    · rw [within_never hc]
      exact ⟨fun h => absurd h (not_effective_never hc limit now), fun _ => rfl⟩
    · have hsilent := hk (Register.answer c w.register).1
      rw [within_passed_of_silent hc hsilent, effective_passed_of_silent hc hsilent, outcome_ask,
        outcome_of_silent hsilent]
      by_cases hlate : limit ≤ now + before
      · rw [if_pos hlate]
        exact ⟨fun h => absurd h.1 (Nat.not_lt.mpr hlate), fun _ => rfl⟩
      · rw [if_neg hlate]
        constructor
        · rintro ⟨-, hchanges⟩
          exact ⟨rfl, Register.answer_of_changes hchanges⟩
        · intro hnot
          apply Register.answer_of_not_changes
          rw [Bool.eq_false_iff]
          exact fun h => hnot ⟨Nat.lt_of_not_le hlate, h⟩

end Dialogue

namespace Service

theorem list_changesLast : list.ChangesLast := by
  refine .look rfl fun x => .of_silent ?_
  cases x <;> trivial

theorem ping_changesLast : ping.ChangesLast := by
  refine .look rfl fun x => .of_silent ?_
  cases x <;> trivial

theorem register_changesLast (a : Application) : (register a).ChangesLast := by
  rw [register]
  cases a.check with
  | error e => exact .done _
  | ok u =>
    refine .look rfl fun x => ?_
    rcases x with e | _ | c
    · exact .of_silent trivial
    · refine .change fun x => ?_
      rcases x with (_ | _ | _) | id <;> trivial
    · exact .done _

theorem remove_changesLast (id : Int32) : (remove id).ChangesLast := by
  refine .look rfl fun x => ?_
  rcases x with e | _ | c
  · exact .of_silent trivial
  · exact .done _
  · refine .change fun x => ?_
    rcases x with e | _ | _ <;> trivial

end Service

namespace Http

theorem perform_changesLast (command : Except Refusal Command) :
    (perform command).ChangesLast := by
  rcases command with e | a | id | op
  · exact .done _
  · apply (Service.register_changesLast a).bind
    rintro (e | c) <;> trivial
  · apply (Service.remove_changesLast id).bind
    rintro (e | u) <;> trivial
  · exact .note (.done _)

theorem answer_changesLast (q : Request) : (answer q).ChangesLast := by
  have hready : getReady.ChangesLast := by
    apply Service.ping_changesLast.bind
    rintro (e | u) <;> trivial
  apply answer_induction
  case hdone => exact .done
  case hcards =>
    apply Service.list_changesLast.bind
    rintro (e | cards) <;> trivial
  case hready => exact hready
  case hhead => exact hready.bind fun _ => trivial
  case hmalformed => exact fun c x => .note (.done x)
  case hdecoded => exact fun b => .note ((perform_changesLast b.command).bind fun _ => trivial)

/-- What a request comes to at the register that it finds, whether it ends in time or not. -/
structure AllOrNothing (seconds : UInt64) (q : Request) (w : World) (x : Exchange) : Prop where
  inTime : ∀ t, (answer q).finishes w = some t → t < limitOf seconds →
    x.response = ((answer q).outcome w.register).1 ∧
      x.world.register = ((answer q).outcome w.register).2
  late : (∀ t, (answer q).finishes w = some t → limitOf seconds ≤ t) →
    x.response.status.code = 408 ∧ x.response.body = "" ∧
      ("access-control-allow-origin", "*") ∈ x.response.headers ∧
      ("access-control-allow-methods", "GET, POST, OPTIONS") ∈ x.response.headers ∧
      ("access-control-allow-headers", "Content-Type") ∈ x.response.headers
  all : (answer q).Effective (limitOf seconds) 0 w →
    x.world.register = ((answer q).outcome w.register).2 ∧ x.world.register ≠ w.register
  nothing : ¬(answer q).Effective (limitOf seconds) 0 w → x.world.register = w.register

theorem serve_allOrNothing {seconds : UInt64} (hs : seconds ≠ 0) (q : Request) {w : World}
    (hw : w.script.Delaying) : AllOrNothing seconds q w (serve seconds q w) := by
  have hlimit := reached_limitOf hs
  have hpos : 0 < limitOf seconds := by
    rw [← Nat.not_le, ← reached_some, hlimit]
    simp
  have hserve : serve seconds q w =
      ⟨((answer q).within (some (limitOf seconds)) 0 w).result.getD (.empty .requestTimeout),
        ((answer q).within (some (limitOf seconds)) 0 w).events,
        ((answer q).within (some (limitOf seconds)) 0 w).world⟩ := by
    rw [serve, hlimit]
    rfl
  obtain ⟨hall, hnothing⟩ := (answer_changesLast q).within (limitOf seconds) 0 hw
  rw [hserve]
  constructor
  case inTime =>
    intro t ht hlt
    have hin : 0 + t < limitOf seconds := by omega
    obtain ⟨hresult, hregister⟩ := Dialogue.within_of_finishes hw ht hin
    exact ⟨by rw [hresult]; rfl, hregister⟩
  case late =>
    intro hlate
    rw [Dialogue.within_of_late hw hpos (by simpa using hlate)]
    change (Response.empty .requestTimeout).status.code = 408 ∧
      (Response.empty .requestTimeout).body = "" ∧
      ("access-control-allow-origin", "*") ∈ (Response.empty .requestTimeout).headers ∧
      ("access-control-allow-methods", "GET, POST, OPTIONS") ∈
        (Response.empty .requestTimeout).headers ∧
      ("access-control-allow-headers", "Content-Type") ∈ (Response.empty .requestTimeout).headers
    decide
  case all =>
    intro h
    obtain ⟨hregister, hne⟩ := hall h
    exact ⟨hregister, hregister ▸ hne⟩
  case nothing => exact hnothing

theorem worldAfter_delaying {seconds : UInt64} (hs : seconds ≠ 0) (qs : List Request) {w : World}
    (hw : w.script.Delaying) : (worldAfter seconds qs w).script.Delaying := by
  induction qs generalizing w with
  | nil => exact hw
  | cons q qs ih =>
    have hserve : (serve seconds q w).world =
        ((answer q).within (some (limitOf seconds)) 0 w).world := by
      rw [serve, reached_limitOf hs]
      rfl
    rw [worldAfter, List.foldl_cons, hserve]
    exact ih (Dialogue.within_delaying _ _ _ hw)

/-- A request that is abandoned has done nothing or all of it, and those after it begin with what
it has left. -/
theorem timeouts_all_or_nothing {seconds : UInt64} (hs : seconds ≠ 0) {w : World}
    (hw : w.script.Delaying) (before : List Request) (q : Request) (after : List Request) :
    let w' := worldAfter seconds before w
    let x := serve seconds q w'
    serveAll seconds (before ++ q :: after) w =
        serveAll seconds before w ++ x :: serveAll seconds after x.world ∧
      x.world.script = (Event.calls x.events).foldl Script.next w'.script ∧
      AllOrNothing seconds q w' x := by
  intro w' x
  refine ⟨?_, serve_script seconds q w', ?_⟩
  · rw [serveAll_append, serveAll]
  · exact serve_allOrNothing hs q (worldAfter_delaying hs before hw)

theorem timeouts_all_or_nothing_twice :
    let new : Request := ⟨"POST", "/card",
      ["[null,\"Alice\",\"CS\",\"T\",\"new\"]".toUTF8.toList], none⟩
    let w : World := .fresh fun
      | .findByIdentity => [none, some .hang]
      | .insert => [some (.after 5000)]
      | _ => []
    let w' := worldAfter 1 [new] w
    let x := serve 1 new w'
    w.script.Delaying ∧ w'.register = ⟨1, [(1, ⟨1, "Alice", "CS", .teacher⟩)]⟩ ∧
      x.response = .empty .requestTimeout ∧ x.world.register = w'.register ∧
      AllOrNothing 1 new w' x := by
  intro new w w' x
  have hw : w.script.Delaying := by
    intro m e he
    cases m <;> simp [w, World.fresh] at he <;> grind [Mishap.Delays]
  have hbody : new.body = .ok new.pieces.flatten := by decide +kernel
  have hnew : answer new = postDecoded ⟨none, "Alice", "CS", "T", "new"⟩ :=
    answer_eq_postDecoded rfl (by decide) hbody (by decide +kernel)
  have hfirst : w'.register = ⟨1, [(1, ⟨1, "Alice", "CS", .teacher⟩)]⟩ := by
    change (serve 1 new w).world.register = _
    rw [serve, hnew]
    decide
  have hsecond : x.response = .empty .requestTimeout ∧ x.world.register = w'.register := by
    change (serve 1 new (serve 1 new w).world).response = _ ∧
      (serve 1 new (serve 1 new w).world).world.register = w'.register
    rw [hfirst]
    simp only [serve, hnew]
    decide
  have hseconds : (1 : UInt64) ≠ 0 := by decide
  obtain ⟨-, -, hx⟩ := timeouts_all_or_nothing hseconds hw [new] new []
  exact ⟨hw, hfirst, hsecond.1, hsecond.2, hx⟩

end Http

end CardDesk
