import CardDesk.Proofs.RegisterInvariant
import CardDesk.Proofs.Session
import CardDesk.Proofs.Talk

namespace CardDesk

variable {α β : Type}

def Record.reportsFailure (r : Record) : Bool :=
  r.level = .error ∧ r.message = "Card store operation failed"

def Record.failure? : Record → Option StoreError
  | storeFailed e => some e
  | _ => none

theorem Record.reportsFailure_eq (r : Record) : r.reportsFailure = r.failure?.isSome := by
  cases r with
  | storeFailed e => exact decide_eq_true ⟨rfl, rfl⟩
  | _ =>
    apply decide_eq_false
    rintro ⟨hlevel, -⟩
    cases hlevel

def Record.redacted (r : Record) : String × Level × String × List (String × String) :=
  (r.target, r.level, r.message,
    if r.reportsFailure then r.fields.filter fun f => f.1 ≠ "error" else r.fields)

def Event.redacted : Event → Call ⊕ (String × Level × String × List (String × String))
  | call c => .inl c
  | record r => .inr r.redacted

theorem Event.calls_of_redacted {events events' : List Event}
    (h : events.map redacted = events'.map redacted) : calls events = calls events' := by
  have hcalls (events : List Event) :
      calls events = (events.map redacted).filterMap Sum.getLeft? := by
    rw [List.filterMap_map]
    apply List.filterMap_congr
    intro e _
    cases e <;> rfl
  rw [hcalls, hcalls, h]

theorem Event.records_of_redacted {events events' : List Event}
    (h : events.map redacted = events'.map redacted) :
    (records events).map Record.redacted = (records events').map Record.redacted := by
  have hrecords (events : List Event) :
      (records events).map Record.redacted =
        (events.map redacted).filterMap Sum.getRight? := by
    rw [records, List.map_filterMap, List.filterMap_map]
    apply List.filterMap_congr
    intro e _
    cases e <;> rfl
  rw [hrecords, hrecords, h]

/-- Whether failures of a call may stand for each other: an insertion must not find a duplicate
because of one and break off because of the other. -/
def StoreError.Alike (m : Method) (e e' : StoreError) : Prop :=
  m = .insert → (e = .duplicate ↔ e' = .duplicate)

inductive Mishap.Alike (m : Method) : Option Mishap → Option Mishap → Prop
  | same (x : Option Mishap) : Alike m x x
  | failed {e e' : StoreError} (h : e.Alike m e') : Alike m (some (.fail e)) (some (.fail e'))

def Script.Alike (s s' : Script) : Prop :=
  ∀ m, List.Forall₂ (Mishap.Alike m) (s m) (s' m)

inductive Call.AnswersAlike (c : Call) :
    Except StoreError c.Answer → Except StoreError c.Answer → Prop
  | same (x : Except StoreError c.Answer) : AnswersAlike c x x
  | failed {e e' : StoreError} (h : e.Alike c.method e') : AnswersAlike c (.error e) (.error e')

theorem Mishap.Alike.course {c : Call} {m m' : Option Mishap} (h : Alike c.method m m') :
    Mishap.course m c = Mishap.course m' c ∨
      ∃ x x', Mishap.course m c = .answered x ∧ Mishap.course m' c = .answered x' ∧
        c.AnswersAlike x x' := by
  cases h with
  | same => exact .inl rfl
  | @failed e e' h =>
    cases c with
    | release => exact .inl rfl
    | _ => exact .inr ⟨.error e, .error e', rfl, rfl, .failed h⟩

namespace Script

variable {s s' : Script}

theorem Alike.entry (h : s.Alike s') (c : Call) :
    Mishap.Alike c.method (s.entry c) (s'.entry c) := by
  rw [Script.entry, Script.entry]
  have hm := h c.method
  generalize s c.method = entries, s' c.method = entries' at hm
  cases hm with
  | nil => exact .same _
  | cons h => exact h

theorem Alike.next (h : s.Alike s') (c : Call) : (s.next c).Alike (s'.next c) := by
  intro m
  rw [Script.next, Script.next]
  have hm := h m
  split
  · generalize s m = entries, s' m = entries' at hm
    cases hm with
    | nil => exact .nil
    | cons _ hm => exact hm
  · exact hm

end Script

theorem Register.answer_failure? (c : Call) (r : Register) :
    Talk.failure? ⟨c, (answer c r).1⟩ = none := by
  cases c with
  | insert a =>
    cases hf : r.findByIdentity a with
    | some c => rw [answer, insert_of_found hf, Talk.failure?]
    | none => rw [answer, insert_of_not_found hf, Talk.failure?]
  | _ => rfl

namespace Script

def failure? (s : Script) (c : Call) : Option StoreError :=
  match Mishap.course (s.entry c) c with
  | .answered x => Talk.failure? ⟨c, x⟩
  | _ => Option.none

theorem failure?_eq_some_iff {s : Script} {c : Call} {e : StoreError} :
    s.failure? c = some e ↔ s.entry c = some (.fail e) ∧ c.method ≠ .release ∧
      ¬(c.method = .insert ∧ e = .duplicate) := by
  rw [failure?]
  rcases s.entry c with _ | (e' | _ | _ | _ | _ | _)
  case some.fail =>
    cases c with
    | insert a =>
      cases e' <;> simp only [Mishap.course, Mishap.failing, Talk.failure?, Call.method] <;> grind
    | release => simp [Mishap.course, Mishap.failing, Call.method]
    | _ => simp [Mishap.course, Mishap.failing, Talk.failure?, Call.method]
  all_goals cases c <;>
    simp [Mishap.course, Mishap.absence, Mishap.haunting, Mishap.delay, Talk.failure?]

def failures (s : Script) : List Call → List StoreError
  | [] => []
  | c :: cs => (s.failure? c).toList ++ (s.next c).failures cs

theorem failures_append (s : Script) (cs cs' : List Call) :
    s.failures (cs ++ cs') = s.failures cs ++ (cs.foldl next s).failures cs' := by
  induction cs generalizing s with
  | nil => rfl
  | cons c cs ih => rw [List.cons_append, failures, failures, ih, List.append_assoc, List.foldl]

end Script

namespace Outcome

structure Alike (o o' : Outcome α) : Prop where
  result : o.result = o'.result
  events : o.events.map Event.redacted = o'.events.map Event.redacted
  register : o.world.register = o'.world.register
  script : o.world.script.Alike o'.world.script

theorem Alike.after {o o' : Outcome α} (h : o.Alike o') {e e' : Event}
    (he : e.redacted = e'.redacted) : (o.after e).Alike (o'.after e') where
  result := h.result
  events := congrArg₂ List.cons he h.events
  register := h.register
  script := h.script

theorem Alike.dropped (r : Register) {s s' : Script} (h : s.Alike s') :
    (⟨none, [], r, s⟩ : Outcome α).Alike ⟨none, [], r, s'⟩ :=
  ⟨rfl, rfl, rfl, h⟩

end Outcome

namespace Dialogue

inductive Alike (R : α → α → Prop) : Dialogue α → Dialogue α → Prop
  | done {a a' : α} (h : R a a') : Alike R (done a) (done a')
  | note {r r' : Record} {d d' : Dialogue α} (hr : r.redacted = r'.redacted) (h : Alike R d d') :
    Alike R (note r d) (note r' d')
  | ask {c : Call} {k k' : Except StoreError c.Answer → Dialogue α}
    (h : ∀ x x', c.AnswersAlike x x' → Alike R (k x) (k' x')) : Alike R (ask c k) (ask c k')

theorem Alike.bind {R : α → α → Prop} {S : β → β → Prop} {d d' : Dialogue α}
    {f f' : α → Dialogue β} (h : Alike R d d') (hf : ∀ a a', R a a' → Alike S (f a) (f' a')) :
    Alike S (d.bind f) (d'.bind f') := by
  induction h with
  | done h => exact hf _ _ h
  | note hr _ ih => exact .note hr ih
  | ask _ ih => exact .ask ih

theorem Alike.within {d d' : Dialogue α} (h : Alike Eq d d') (limit : Option Nat) (now : Nat)
    (r : Register) {s s' : Script} (hs : s.Alike s') :
    (d.within limit now ⟨r, s⟩).Alike (d'.within limit now ⟨r, s'⟩) := by
  induction h generalizing now r s s' with
  | done h => exact ⟨congrArg some h, rfl, rfl, hs⟩
  | note hr _ ih => exact (ih now r hs).after (congrArg Sum.inr hr)
  | @ask c k k' _ ih =>
    have hnext := hs.next c
    rw [Dialogue.within, Dialogue.within, World.begin_eq, World.begin_eq]
    refine Outcome.Alike.after ?_ rfl
    dsimp only
    rcases (hs.entry c).course with hcourse | ⟨x, x', hx, hx', hanswers⟩
    · rw [hcourse]
      cases Mishap.course (s'.entry c) c with
      | never => exact .dropped r hnext
      | answered x => exact ih x x (.same x) now r hnext
      | passed before after =>
        dsimp only [World.settle]
        split
        · exact .dropped r hnext
        split
        · exact .dropped _ hnext
        · exact ih _ _ (.same _) _ _ hnext
    · rw [hx, hx']
      exact ih x x' hanswers now r hnext

/-- A dialogue that reports each failure that it meets, and `due` before all, once and at once. -/
def Reports : Dialogue α → Option StoreError → Prop
  | done _, due => due = none
  | note r d, due => r.failure? = due ∧ d.Reports none
  | ask c k, due => due = none ∧ ∀ x, (k x).Reports (Talk.failure? ⟨c, x⟩)

theorem Reports.bind {d : Dialogue α} {f : α → Dialogue β} {due : Option StoreError}
    (h : d.Reports due) (hf : ∀ a, (f a).Reports none) : (d.bind f).Reports due := by
  induction d generalizing due with
  | done a =>
    cases h
    exact hf a
  | note r d ih => exact ⟨h.1, ih h.2⟩
  | ask c k ih => exact ⟨h.1, fun x => ih x (h.2 x)⟩

theorem Reports.within {d : Dialogue α} {due : Option StoreError} (h : d.Reports due)
    (limit : Option Nat) (now : Nat) (w : World) :
    (Event.records (d.within limit now w).events).filterMap Record.failure? =
      due.toList ++ w.script.failures (Event.calls (d.within limit now w).events) := by
  induction d generalizing due now w with
  | done a =>
    cases h
    rfl
  | note r d ih =>
    obtain ⟨rfl, h⟩ := h
    have hrecords (o : Outcome α) :
        (Event.records (o.after (.record r)).events).filterMap Record.failure? =
          r.failure?.toList ++ (Event.records o.events).filterMap Record.failure? := by
      change (r :: Event.records o.events).filterMap Record.failure? = _
      rw [List.filterMap_cons]
      cases r.failure? <;> rfl
    rw [Dialogue.within, hrecords, ih h now w]
    rfl
  | ask c k ih =>
    obtain ⟨rfl, h⟩ := h
    have hrecords (o : Outcome α) :
        Event.records (o.after (.call c)).events = Event.records o.events := rfl
    have hcalls (o : Outcome α) :
        Event.calls (o.after (.call c)).events = c :: Event.calls o.events := rfl
    rw [Dialogue.within, World.begin_eq, hrecords, hcalls, Script.failures, Script.failure?,
      Option.toList_none, List.nil_append]
    generalize Mishap.course (w.script.entry c) c = course
    cases course with
    | never => rfl
    | answered x => exact ih x (h x) now ⟨w.register, w.script.next c⟩
    | passed before after =>
      dsimp only [World.settle]
      split
      · rfl
      split
      · rfl
      · have hanswer := ih _ (h (Register.answer c w.register).1) (now + before + after)
          ⟨(Register.answer c w.register).2, w.script.next c⟩
        rw [Register.answer_failure?] at hanswer
        exact hanswer

end Dialogue

inductive Refusal.Alike : Except Refusal α → Except Refusal α → Prop
  | same (x : Except Refusal α) : Alike x x
  | failed (e e' : StoreError) : Alike (.error (.storeFailed e)) (.error (.storeFailed e'))

namespace Service

theorem refuse_alike (e e' : StoreError) :
    Dialogue.Alike Refusal.Alike (refuse e : Dialogue (Except Refusal α)) (refuse e') := by
  refine .note ?_ (.done (.failed e e'))
  rfl

theorem list_alike : list.Alike Refusal.Alike list := by
  refine .ask fun x x' h => ?_
  rcases h with ⟨e | cards⟩ | ⟨h⟩
  · exact refuse_alike e e
  · exact .done (.same _)
  · exact refuse_alike _ _

theorem ping_alike : ping.Alike Refusal.Alike ping := by
  refine .ask fun x x' h => ?_
  rcases h with ⟨e | u⟩ | ⟨h⟩
  · exact refuse_alike e e
  · exact .done (.same _)
  · exact refuse_alike _ _

theorem insert_alike (a : Application) : (insert a).Alike Refusal.Alike (insert a) := by
  refine .ask fun x x' h => ?_
  rcases h with ⟨(e | _ | t) | id⟩ | @⟨e, e', h⟩
  · exact refuse_alike _ _
  · exact .done (.same _)
  · exact refuse_alike _ _
  · exact .note rfl (.done (.same _))
  · have hduplicate := h rfl
    cases e <;> cases e' <;>
      first | exact .done (.same _) | exact refuse_alike _ _ | simp at hduplicate

theorem register_alike (a : Application) : (register a).Alike Refusal.Alike (register a) := by
  rw [register]
  cases a.check with
  | error r => exact .done (.same _)
  | ok u =>
    refine .ask fun x x' h => ?_
    rcases h with ⟨e | _ | c⟩ | ⟨h⟩
    · exact refuse_alike e e
    · exact insert_alike a
    · exact .done (.same _)
    · exact refuse_alike _ _

theorem remove_alike (id : Int32) : (remove id).Alike Refusal.Alike (remove id) := by
  refine .ask fun x x' h => ?_
  rcases h with ⟨e | _ | c⟩ | ⟨h⟩
  · exact refuse_alike e e
  · exact .done (.same _)
  · refine .ask fun x x' h => ?_
    rcases h with ⟨e | _ | _⟩ | ⟨h⟩
    · exact refuse_alike e e
    · exact .done (.same _)
    · exact .note rfl (.done (.same _))
    · exact refuse_alike _ _
  · exact refuse_alike _ _

theorem refuse_reports (e : StoreError) :
    (refuse e : Dialogue (Except Refusal α)).Reports (some e) :=
  ⟨rfl, rfl⟩

theorem list_reports : list.Reports none := by
  refine ⟨rfl, fun x => ?_⟩
  rcases x with e | cards
  · exact refuse_reports e
  · rfl

theorem ping_reports : ping.Reports none := by
  refine ⟨rfl, fun x => ?_⟩
  rcases x with e | u
  · exact refuse_reports e
  · rfl

theorem register_reports (a : Application) : (register a).Reports none := by
  rw [register]
  cases a.check with
  | error r => rfl
  | ok u =>
    refine ⟨rfl, fun x => ?_⟩
    rcases x with e | _ | c
    · exact refuse_reports e
    · refine ⟨rfl, fun x => ?_⟩
      rcases x with (e | _ | t) | id
      · exact refuse_reports _
      · rfl
      · exact refuse_reports _
      · exact ⟨rfl, rfl⟩
    · rfl

theorem remove_reports (id : Int32) : (remove id).Reports none := by
  refine ⟨rfl, fun x => ?_⟩
  rcases x with e | _ | c
  · exact refuse_reports e
  · rfl
  · refine ⟨rfl, fun x => ?_⟩
    rcases x with e | _ | _
    · exact refuse_reports e
    · rfl
    · exact ⟨rfl, rfl⟩

end Service

namespace Http

open Dialogue

theorem AppError.answer_alike (e : AppError) : e.answer.Alike Eq e.answer := by
  cases e with
  | badRequest m => exact .done rfl
  | unavailable m => exact .note rfl (.done rfl)

theorem getReady_alike : getReady.Alike Eq getReady := by
  refine Service.ping_alike.bind fun x x' h => ?_
  rcases h with ⟨e | u⟩ | ⟨e, e'⟩
  · exact AppError.answer_alike _
  · exact .done rfl
  · exact AppError.answer_alike (.unavailable (Refusal.storeFailed e).message)

theorem getCards_alike : getCards.Alike Eq getCards := by
  refine Service.list_alike.bind fun x x' h => ?_
  rcases h with ⟨e | cards⟩ | ⟨e, e'⟩ <;> exact .done rfl

theorem perform_alike (command : Except Refusal Command) :
    (perform command).Alike Eq (perform command) := by
  rcases command with r | a | id | op
  · exact .done rfl
  · refine (Service.register_alike a).bind fun x x' h => ?_
    rcases h with ⟨r | c⟩ | ⟨e, e'⟩ <;> exact .done rfl
  · refine (Service.remove_alike id).bind fun x x' h => ?_
    rcases h with ⟨r | u⟩ | ⟨e, e'⟩
    · exact .note rfl (.done rfl)
    · exact .done rfl
    · exact .note rfl (.done rfl)
  · exact .note rfl (.done rfl)

theorem answer_alike (q : Request) : (answer q).Alike Eq (answer q) := by
  refine answer_induction (P := fun d => d.Alike Eq d) (fun x => .done rfl) getCards_alike
    getReady_alike ?_ (fun c x => .note rfl (.done rfl)) (fun b => .note rfl ?_) q
  · exact getReady_alike.bind fun x x' h => .done (congrArg Response.withoutBody h)
  · exact (perform_alike b.command).bind fun m m' h => .done (congrArg (Response.text .ok) h)

theorem AppError.answer_reports (e : AppError) : e.answer.Reports none := by
  cases e with
  | badRequest m => rfl
  | unavailable m => exact ⟨rfl, rfl⟩

theorem perform_reports (command : Except Refusal Command) :
    (perform command).Reports none := by
  rcases command with r | a | id | op
  · rfl
  · apply (Service.register_reports a).bind
    rintro (r | c) <;> rfl
  · apply (Service.remove_reports id).bind
    rintro (r | u)
    · exact ⟨rfl, rfl⟩
    · rfl
  · exact ⟨rfl, rfl⟩

theorem answer_reports (q : Request) : (answer q).Reports none := by
  have hready : getReady.Reports none := by
    apply Service.ping_reports.bind
    rintro (r | u)
    · exact AppError.answer_reports _
    · rfl
  refine answer_induction (P := fun d => d.Reports none) (fun x => rfl) ?_ hready
    (hready.bind fun _ => rfl) (fun c x => ⟨rfl, rfl⟩)
    (fun b => ⟨rfl, (perform_reports b.command).bind fun _ => rfl⟩) q
  apply Service.list_reports.bind
  rintro (r | cards) <;> rfl

/-- Exchanges of which only the log can tell that the store failed for different reasons. -/
structure Exchange.Alike (x x' : Exchange) : Prop where
  response : x.response = x'.response
  calls : Event.calls x.events = Event.calls x'.events
  register : x.world.register = x'.world.register
  records : (Event.records x.events).map Record.redacted =
    (Event.records x'.events).map Record.redacted
  events : x.events.map Event.redacted = x'.events.map Event.redacted

def called (xs : List Exchange) : List Call :=
  xs.flatMap fun x => Event.calls x.events

def recorded (xs : List Exchange) : List Record :=
  xs.flatMap fun x => Event.records x.events

theorem serve_alike (seconds : UInt64) (q : Request) (r : Register) {s s' : Script}
    (h : s.Alike s') :
    (serve seconds q ⟨r, s⟩).Alike (serve seconds q ⟨r, s'⟩) ∧
      (serve seconds q ⟨r, s⟩).world.script.Alike (serve seconds q ⟨r, s'⟩).world.script := by
  obtain ⟨hresult, hevents, hregister, hscript⟩ :=
    (answer_alike q).within (some (limitOf seconds)) 0 r h
  rw [serve, serve]
  dsimp only
  split
  · exact ⟨⟨rfl, rfl, rfl, rfl, rfl⟩, h⟩
  · exact ⟨⟨congrArg (Option.getD · _) hresult, Event.calls_of_redacted hevents, hregister,
      Event.records_of_redacted hevents, hevents⟩, hscript⟩

theorem serveAll_alike (seconds : UInt64) (qs : List Request) (r : Register) {s s' : Script}
    (h : s.Alike s') :
    List.Forall₂ Exchange.Alike (serveAll seconds qs ⟨r, s⟩) (serveAll seconds qs ⟨r, s'⟩) := by
  induction qs generalizing r s s' with
  | nil => exact .nil
  | cons q qs ih =>
    obtain ⟨hexchange, hscript⟩ := serve_alike seconds q r h
    have hrest := ih (serve seconds q ⟨r, s⟩).world.register hscript
    refine .cons hexchange ?_
    convert hrest using 2
    rw [hexchange.register]

theorem serveAll_failures (seconds : UInt64) (qs : List Request) (w : World) :
    (recorded (serveAll seconds qs w)).filterMap Record.failure? =
      w.script.failures (called (serveAll seconds qs w)) := by
  induction qs generalizing w with
  | nil => rfl
  | cons q qs ih =>
    have hserve : (Event.records (serve seconds q w).events).filterMap Record.failure? =
        w.script.failures (Event.calls (serve seconds q w).events) := by
      rw [serve]
      dsimp only
      split
      · rfl
      · exact (answer_reports q).within _ _ w
    rw [serveAll, recorded, called, List.flatMap_cons, List.flatMap_cons, List.filterMap_append,
      Script.failures_append, hserve, ← serve_script]
    exact congrArg _ (ih _)

def failureReports (xs : List Exchange) : List (List (String × String)) :=
  ((recorded xs).filter Record.reportsFailure).map Record.fields

theorem failureReports_serveAll (seconds : UInt64) (qs : List Request) (w : World) :
    failureReports (serveAll seconds qs w) =
      (w.script.failures (called (serveAll seconds qs w))).map fun e => [("error", e.message)] := by
  rw [← serveAll_failures, failureReports]
  induction recorded (serveAll seconds qs w) with
  | nil => rfl
  | cons r records ih =>
    rw [List.filter_cons, List.filterMap_cons, Record.reportsFailure_eq]
    cases r <;> simp_all [Record.failure?, Record.fields]

/-- Why the store fails shows in nothing but the reports that it has failed, of which there is one
for each failure. -/
theorem failures_undisclosed (seconds : UInt64) (qs : List Request) (r : Register)
    {s s' : Script} (h : s.Alike s') :
    let xs := serveAll seconds qs ⟨r, s⟩
    let xs' := serveAll seconds qs ⟨r, s'⟩
    List.Forall₂ Exchange.Alike xs xs' ∧
      failureReports xs = (s.failures (called xs)).map (fun e => [("error", e.message)]) ∧
      failureReports xs' = (s'.failures (called xs')).map fun e => [("error", e.message)] :=
  ⟨serveAll_alike seconds qs r h, failureReports_serveAll seconds qs ⟨r, s⟩,
    failureReports_serveAll seconds qs ⟨r, s'⟩⟩

theorem failures_undisclosed_of_unlike_reasons :
    let new : Request := ⟨"POST", "/card",
      ["[null,\"Alice\",\"CS\",\"T\",\"new\"]".toUTF8.toList], none⟩
    let qs : List Request := [new, new, new, ⟨"GET", "/ready", [], none⟩]
    let s : Script := fun
      | .findByIdentity => [some (.fail (.corrupt "row 7"))]
      | .insert => [some (.fail .duplicate), some (.fail (.database .poolTimedOut))]
      | .ping => [some (.fail .duplicate)]
      | _ => []
    let s' : Script := fun
      | .findByIdentity => [some (.fail .duplicate)]
      | .insert => [some (.fail .duplicate), some (.fail (.corrupt ""))]
      | .ping => [some (.fail (.database .poolClosed))]
      | _ => []
    let xs := serveAll 1 qs ⟨.empty, s⟩
    let xs' := serveAll 1 qs ⟨.empty, s'⟩
    s.Alike s' ∧ List.Forall₂ Exchange.Alike xs xs' ∧
      failureReports xs = [[("error", "Corrupt card row: row 7")],
        [("error", "Database error: pool timed out while waiting for an open connection")],
        [("error", "Duplicate card")]] ∧
      failureReports xs' = [[("error", "Duplicate card")], [("error", "Corrupt card row: ")],
        [("error", "Database error: attempted to acquire a connection on a closed pool")]] := by
  intro new qs s s' xs xs'
  have h : s.Alike s' := by
    intro m
    cases m
    case findByIdentity => exact .cons (.failed nofun) .nil
    case insert => exact .cons (.same _) (.cons (.failed fun _ => by simp) .nil)
    case ping => exact .cons (.failed nofun) .nil
    all_goals exact .nil
  have hbody : new.body = .ok new.pieces.flatten := by decide +kernel
  have hnew : answer new = postDecoded ⟨none, "Alice", "CS", "T", "new"⟩ :=
    answer_eq_postDecoded rfl (by decide) hbody (by decide +kernel)
  obtain ⟨halike, hreports, hreports'⟩ := failures_undisclosed 1 qs .empty h
  refine ⟨h, halike, ?_, ?_⟩
  · rw [hreports]
    simp only [qs, serveAll, serve, hnew]
    decide
  · rw [hreports']
    simp only [qs, serveAll, serve, hnew]
    decide

end Http

end CardDesk
