import CardDesk.Proofs.Deadline
import CardDesk.Proofs.Moments

namespace CardDesk

variable {α β σ : Type}

namespace Dialogue

def Puts : Dialogue α → List Call → Prop
  | done _, cs => cs = []
  | note _ d, cs => d.Puts cs
  | ask c k, cs => ∃ rest, cs = c :: rest ∧ ∀ x, (k x).Puts rest

theorem Puts.bind {d : Dialogue α} {f : α → Dialogue β} {cs : List Call} (h : d.Puts cs)
    (hf : ∀ a, (f a).Puts []) : (d.bind f).Puts cs := by
  induction d generalizing cs with
  | done a =>
    obtain rfl : cs = [] := h
    exact hf a
  | note r d ih => exact ih h
  | ask c k ih =>
    obtain ⟨rest, hcs, hk⟩ := h
    exact ⟨rest, hcs, fun x => ih x (hk x)⟩

theorem Puts.talks {d : Dialogue α} {cs : List Call} (h : d.Puts cs) (store : Store σ) (s : σ) :
    (d.talks store s).map Sigma.fst = cs := by
  induction d generalizing cs s with
  | done a => exact h.symm
  | note r d ih => exact ih h s
  | ask c k ih =>
    obtain ⟨rest, rfl, hk⟩ := h
    exact congrArg (c :: ·) (ih _ (hk _) _)

theorem Puts.within {d : Dialogue α} {cs : List Call} (h : d.Puts cs) (hone : cs.length ≤ 1)
    (limit : Option Nat) (now : Nat) (w : World) :
    Event.calls (d.within limit now w).events = cs := by
  induction d generalizing cs now w with
  | done a => exact h.symm
  | note r d ih => exact ih h hone now w
  | ask c k ih =>
    obtain ⟨rest, rfl, hk⟩ := h
    obtain rfl : rest = [] := List.eq_nil_of_length_eq_zero (by simpa using hone)
    have hcalls (o : Outcome α) :
        Event.calls (o.after (.call c)).events = c :: Event.calls o.events := rfl
    rw [Dialogue.within, World.begin_eq, hcalls]
    apply congrArg (c :: ·)
    generalize Mishap.course (w.script.entry c) c = course
    cases course with
    | never => rfl
    | answered x => exact ih x (hk x) (Nat.zero_le 1) now _
    | passed before after =>
      dsimp only
      split
      · rfl
      split
      · rfl
      · exact ih _ (hk _) (Nat.zero_le 1) _ _

theorem Puts.asks {d : Dialogue α} {cs : List Call} (h : d.Puts cs) : d.Asks fun c => c ∈ cs := by
  induction d generalizing cs with
  | done a => trivial
  | note r d ih => exact ih h
  | ask c k ih =>
    obtain ⟨rest, rfl, hk⟩ := h
    exact ⟨List.mem_cons_self, fun x => (ih x (hk x)).mono fun _ => List.mem_cons_of_mem c⟩

end Dialogue

namespace Http

def lookups (q : Request) : List Call :=
  if q.method = "GET" ∧ pathOf q.target = "/card" then [.findAll]
  else if (q.method = "GET" ∨ q.method = "HEAD") ∧ pathOf q.target = "/ready" then [.ping]
  else []

theorem lookups_of_card {q : Request} (h : pathOf q.target = "/card") :
    lookups q = if q.method = "GET" then [.findAll] else [] := by
  have hready : "/card" ≠ "/ready" := by decide
  simp [lookups, h, hready]

theorem lookups_of_ready {q : Request} (h : pathOf q.target = "/ready") :
    lookups q = if q.method = "GET" ∨ q.method = "HEAD" then [.ping] else [] := by
  have hcard : "/ready" ≠ "/card" := by decide
  simp [lookups, h, hcard]

theorem lookups_of_other {q : Request} (hcard : Route.ofPath? (pathOf q.target) ≠ some .card)
    (hready : Route.ofPath? (pathOf q.target) ≠ some .ready) : lookups q = [] := by
  have hcard' : pathOf q.target ≠ "/card" := fun h => hcard (Route.ofPath?_eq_some_iff.mpr h)
  have hready' : pathOf q.target ≠ "/ready" := fun h => hready (Route.ofPath?_eq_some_iff.mpr h)
  simp [lookups, hcard', hready']

theorem lookups_length_le_one (q : Request) : (lookups q).length ≤ 1 := by
  unfold lookups
  split
  · exact Nat.le_refl 1
  split
  · exact Nat.le_refl 1
  · exact Nat.zero_le 1

theorem mem_lookups {q : Request} {c : Call} (h : c ∈ lookups q) : c = .findAll ∨ c = .ping := by
  unfold lookups at h
  split at h
  · exact .inl (List.mem_singleton.mp h)
  split at h
  · exact .inr (List.mem_singleton.mp h)
  · cases h

theorem getCards_puts : getCards.Puts [.findAll] := by
  refine ⟨[], rfl, fun x => ?_⟩
  cases x <;> rfl

theorem getReady_puts : getReady.Puts [.ping] := by
  refine ⟨[], rfl, fun x => ?_⟩
  cases x <;> rfl

theorem readOnly_done_puts (method : String) (x : Response) :
    (readOnly method (.done x)).Puts [] := by
  unfold readOnly
  split
  · rfl
  split
  · rfl
  · rfl

theorem readOnly_getReady_puts (method : String) :
    (readOnly method getReady).Puts
      (if method = "GET" ∨ method = "HEAD" then [.ping] else []) := by
  rw [readOnly]
  by_cases hget : method = "GET"
  · rw [if_pos hget, if_pos (.inl hget)]
    exact getReady_puts
  by_cases hhead : method = "HEAD"
  · rw [if_neg hget, if_pos hhead, if_pos (.inr hhead)]
    exact getReady_puts.bind fun _ => rfl
  · rw [if_neg hget, if_neg hhead, if_neg fun h => h.elim hget hhead]
    rfl

theorem answerCard_puts {q : Request} (h : q.method ≠ "POST") :
    (answerCard q).Puts (if q.method = "GET" then [.findAll] else []) := by
  rw [answerCard]
  by_cases hget : q.method = "GET"
  · rw [if_pos hget, if_pos hget]
    exact getCards_puts
  · rw [if_neg hget, if_neg h, if_neg hget]
    split
    · rfl
    split
    · rfl
    · rfl

theorem answer_puts {q : Request} (h : ¬(q.method = "POST" ∧ pathOf q.target = "/card")) :
    (answer q).Puts (lookups q) := by
  have hother := @lookups_of_other q
  rw [answer]
  cases hroute : Route.ofPath? (pathOf q.target) with
  | none =>
    rw [hroute] at hother
    exact hother (by decide) (by decide)
  | some route =>
    have hp := Route.ofPath?_eq_some_iff.mp hroute
    rw [hroute] at hother
    cases route with
    | health =>
      rw [hother (by decide) (by decide)]
      exact readOnly_done_puts _ _
    | description =>
      rw [hother (by decide) (by decide)]
      exact readOnly_done_puts _ _
    | ready =>
      rw [lookups_of_ready hp]
      exact readOnly_getReady_puts _
    | card =>
      rw [lookups_of_card hp]
      exact answerCard_puts fun hm => h ⟨hm, hp⟩

theorem serve_calls_of_puts {q : Request} {cs : List Call} (h : (answer q).Puts cs)
    (hone : cs.length ≤ 1) (seconds : UInt64) (w : World) :
    Event.calls (serve seconds q w).events = if seconds = 0 then [] else cs := by
  rw [serve]
  by_cases hs : seconds = 0
  · rw [if_pos hs, hs]
    rfl
  · rw [if_neg hs, reached_limitOf hs]
    exact h.within hone _ _ w

def permissions : List (String × String) :=
  [("access-control-allow-origin", "*"),
    ("access-control-allow-methods", "GET, POST, OPTIONS"),
    ("access-control-allow-headers", "Content-Type")]

/-- A response that carries each permission once, with the one value. -/
def Response.Readable (x : Response) : Prop :=
  ∀ h ∈ permissions, x.headers.filter (fun h' => h'.1 = h.1) = [h]

theorem Response.ownHeaders_names (x : Response) :
    ∀ h ∈ x.ownHeaders, h.1 ∈ ["allow", "content-length", "content-type"] := by
  intro h hh
  simp only [ownHeaders, List.mem_append, Option.mem_toList, Option.map_eq_some_iff,
    List.mem_singleton] at hh
  rcases hh with (⟨methods, -, rfl⟩ | rfl) | ⟨media, -, rfl⟩
  all_goals simp

theorem Response.readable (x : Response) : x.Readable := by
  have horigin : ∀ h ∈ permissions, originHeaders.filter (fun h' => h'.1 = h.1) = [h] ∧
      h.1 ∉ ["allow", "content-length", "content-type"] := by decide
  intro h hh
  obtain ⟨honce, hname⟩ := horigin h hh
  have hown : x.ownHeaders.filter (fun h' => h'.1 = h.1) = [] := by
    rw [List.filter_eq_nil_iff]
    intro h' hh' heq
    rw [decide_eq_true_eq] at heq
    exact hname (heq ▸ x.ownHeaders_names h' hh')
  rw [headers, List.filter_append, honce, hown, List.append_nil]

/-- A request that is no submission changes nothing and puts at most one call, which looks for no
card; and whatever the request is, whatever the store does and whether there is time for an answer
or not, the response is one that clients from everywhere may read. -/
theorem only_submissions_change (seconds : UInt64) (q : Request) (w : World) :
    (¬(q.method = "POST" ∧ pathOf q.target = "/card") →
      (∀ r ∈ momentsOf seconds q w, r = w.register) ∧
      (serve seconds q w).world.register = w.register ∧
      (∀ c ∈ Event.calls (serve seconds q w).events,
        c.method ∉ [Method.findByIdentity, .findById, .insert, .deleteById]) ∧
      Event.calls (serve seconds q w).events = (if seconds = 0 then [] else lookups q) ∧
      ∀ (σ : Type) (store : Store σ) (s : σ),
        ((answer q).talks store s).map Sigma.fst = lookups q) ∧
    (serve seconds q w).response.Readable ∧
    ∀ (σ : Type) (store : Store σ) (s : σ), ((answer q).run store s).1.Readable := by
  refine ⟨fun h => ?_, Response.readable _, fun _ _ _ => Response.readable _⟩
  have hputs := answer_puts h
  have hasks : (answer q).Asks fun c => c = .findAll ∨ c = .ping :=
    hputs.asks.mono fun _ => mem_lookups
  have hstill : ∀ r ∈ momentsOf seconds q w, r = w.register := by
    refine momentsOf_keep (P := fun r => r = w.register) ?_ hasks seconds rfl
    rintro c r (rfl | rfl) hr
    · exact hr
    · exact hr
  refine ⟨hstill, hstill _ (serve_mem_momentsOf seconds q w), fun c hc => ?_, ?_, ?_⟩
  · rcases serve_asks hasks seconds w c hc with rfl | rfl
    · decide
    · decide
  · exact serve_calls_of_puts hputs (lookups_length_le_one q) seconds w
  · exact fun _ store s => hputs.talks store s

theorem only_submissions_change_stalled :
    let list : Request := ⟨"GET", "/card?all", [[0x7B]], none⟩
    let ready : Request := ⟨"HEAD", "/ready", [], none⟩
    let w : World := ⟨⟨1, [(1, ⟨1, "Alice", "CS", .teacher⟩)]⟩, fun
      | .findAll => [some .hang]
      | .ping => [some (.fail .duplicate)]
      | _ => []⟩
    let x := serve 1 list w
    let y := serve 1 ready x.world
    (¬(list.method = "POST" ∧ pathOf list.target = "/card") ∧
        x.response = .empty .requestTimeout ∧ Event.calls x.events = [.findAll]) ∧
      (¬(ready.method = "POST" ∧ pathOf ready.target = "/card") ∧
        y.response.status = .unavailable ∧ Event.calls y.events = [.ping]) ∧
      y.world.register = w.register ∧ x.response.Readable ∧ y.response.Readable := by
  intro list ready w x y
  have hlist : ¬(list.method = "POST" ∧ pathOf list.target = "/card") := by decide
  have hready : ¬(ready.method = "POST" ∧ pathOf ready.target = "/card") := by decide
  obtain ⟨hx, hxread, -⟩ := only_submissions_change 1 list w
  obtain ⟨hy, hyread, -⟩ := only_submissions_change 1 ready x.world
  obtain ⟨-, hxregister, -, hxcalls, -⟩ := hx hlist
  obtain ⟨-, hyregister, -, hycalls, -⟩ := hy hready
  refine ⟨⟨hlist, by decide, ?_⟩, ⟨hready, by decide, ?_⟩, ?_, hxread, hyread⟩
  · rw [hxcalls]
    decide
  · rw [hycalls]
    decide
  · exact hyregister.trans hxregister

end Http

end CardDesk
