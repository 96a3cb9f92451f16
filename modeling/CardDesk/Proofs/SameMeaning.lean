import CardDesk.Proofs.Ledger
import CardDesk.Proofs.Verdict

namespace CardDesk

variable {α β σ : Type}

namespace Request

/-- Requests of which each may stand for the other. -/
inductive MeansSame (b b' : Request) : Prop
  | new (hop : b.op = "new") (hop' : b'.op = "new")
    (hname : Text.trim (b.name.getD "") = Text.trim (b'.name.getD ""))
    (hdepartment : Text.trim (b.department.getD "") = Text.trim (b'.department.getD ""))
    {label label' : String} (hl : b.label = some label) (hl' : b'.label = some label')
    {c : Category} (hc : Text.trim label ∈ c.labels) (hc' : Text.trim label' ∈ c.labels)
  | remove (hop : b.op = "remove") (hop' : b'.op = "remove") (hid : b.id = b'.id)
  | unsupported (hnew : b.op ≠ "new") (hremove : b.op ≠ "remove")
    (hnew' : b'.op ≠ "new") (hremove' : b'.op ≠ "remove")

theorem command_of_new {b : Request} {label : String} {c : Category} (hop : b.op = "new")
    (hl : b.label = some label) (hc : Text.trim label ∈ c.labels) :
    b.command = .ok (.register (.trimmed (b.name.getD "") (b.department.getD "") c)) := by
  simp [command, hop, hl, Category.ofLabel?_eq_some_iff.mpr hc]

theorem command_of_remove {b : Request} (hop : b.op = "remove") :
    b.command = match b.id with
      | none => .error .idRequired
      | some id => .ok (.remove id) := by
  have hnew : b.op ≠ "new" := by simp [hop]
  exact (if_neg hnew).trans (if_pos hop)

theorem command_of_unsupported {b : Request} (hnew : b.op ≠ "new") (hremove : b.op ≠ "remove") :
    b.command = .ok (.unsupported b.op) := by
  simp [command, hnew, hremove]

end Request

namespace Dialogue

def unlogged : Dialogue α → Dialogue α
  | done a => done a
  | note _ d => d.unlogged
  | ask c k => ask c fun x => (k x).unlogged

theorem unlogged_bind (d : Dialogue α) (f : α → Dialogue β) :
    (d.bind f).unlogged = d.unlogged.bind fun a => (f a).unlogged := by
  induction d with
  | done a => rfl
  | note r d ih => exact ih
  | ask c k ih => simp [bind, unlogged, ih]

theorem run_unlogged (d : Dialogue α) (store : Store σ) (s : σ) :
    d.unlogged.run store s = ((d.run store s).1, [], (d.run store s).2.2) := by
  induction d generalizing s with
  | done a => rfl
  | note r d ih => exact ih s
  | ask c k ih => exact ih _ _

theorem talks_unlogged (d : Dialogue α) (store : Store σ) (s : σ) :
    d.unlogged.talks store s = d.talks store s := by
  induction d generalizing s with
  | done a => rfl
  | note r d ih => exact ih s
  | ask c k ih => simp [unlogged, talks, ih]

theorem within_unlogged (d : Dialogue α) (limit : Option Nat) (now : Nat) (w : World) :
    d.unlogged.within limit now w =
      ⟨(d.within limit now w).result, (Event.calls (d.within limit now w).events).map .call,
        (d.within limit now w).world⟩ := by
  induction d generalizing now w with
  | done a => rfl
  | note r d ih => exact ih now w
  | ask c k ih =>
    rw [unlogged, within, within, World.begin_eq]
    generalize Mishap.course (w.script.entry c) c = course
    cases course with
    | never => rfl
    | answered x => simp [ih, Outcome.after, Event.calls]
    | passed before after =>
      dsimp only
      split
      · rfl
      split
      · rfl
      · simp [ih, Outcome.after, Event.calls]

end Dialogue

namespace Http

open Dialogue

theorem perform_unlogged {b b' : CardDesk.Request} (h : b.MeansSame b') :
    (perform b.command).unlogged = (perform b'.command).unlogged := by
  cases h with
  | new hop hop' hname hdepartment hl hl' hc hc' =>
    rw [Request.command_of_new hop hl hc, Request.command_of_new hop' hl' hc']
    simp only [Application.trimmed, hname, hdepartment]
  | remove hop hop' hid =>
    rw [Request.command_of_remove hop, Request.command_of_remove hop', hid]
  | unsupported hnew hremove hnew' hremove' =>
    rw [Request.command_of_unsupported hnew hremove, Request.command_of_unsupported hnew' hremove']
    rfl

theorem postDecoded_unlogged {b b' : CardDesk.Request} (h : b.MeansSame b') :
    (postDecoded b).unlogged = (postDecoded b').unlogged := by
  simp only [postDecoded, unlogged, unlogged_bind, perform_unlogged h]

theorem postDecoded_silent {b : CardDesk.Request} (hnew : b.op ≠ "new")
    (hremove : b.op ≠ "remove") :
    (postDecoded b).Asks fun _ => False := by
  rw [postDecoded, Request.command_of_unsupported hnew hremove]
  trivial

/-- Exchanges that no one but a reader of the log can tell apart. -/
structure Exchange.SameButForLog (x x' : Exchange) : Prop where
  response : x.response = x'.response
  calls : Event.calls x.events = Event.calls x'.events
  world : x.world = x'.world

theorem serve_of_unlogged {q q' : Request} (h : (answer q).unlogged = (answer q').unlogged)
    (seconds : UInt64) (w : World) : (serve seconds q w).SameButForLog (serve seconds q' w) := by
  have hcalls (cs : List Call) : Event.calls (cs.map .call) = cs := by
    simp [Event.calls, List.filterMap_map]
  have hwithin := within_unlogged (answer q) (some (limitOf seconds)) 0 w
  rw [h, within_unlogged] at hwithin
  injection hwithin with hresult hevents hworld
  have hevents := congrArg Event.calls hevents
  rw [hcalls, hcalls] at hevents
  rw [serve, serve]
  dsimp only
  split
  · exact ⟨rfl, rfl, rfl⟩
  · exact ⟨by rw [hresult], hevents.symm, hworld.symm⟩

theorem serve_of_silent {q : Request} (h : (answer q).Asks fun _ => False) (seconds : UInt64)
    (w : World) : Event.calls (serve seconds q w).events = [] ∧ (serve seconds q w).world = w := by
  constructor
  · exact List.eq_nil_iff_forall_not_mem.mpr (serve_asks h seconds w)
  · rw [serve]
    dsimp only
    split
    · rfl
    · exact within_of_silent h _ _ w

/-- Requests that mean the same are treated the same, at any store and whatever goes wrong there;
those of an unknown operation do not reach the store. -/
theorem same_meaning_same_treatment {q q' : Request} {b b' : CardDesk.Request}
    (hq : q.submission? = some b) (hq' : q'.submission? = some b') (h : b.MeansSame b') :
    (∀ seconds w, (serve seconds q w).SameButForLog (serve seconds q' w)) ∧
      (∀ (σ : Type) (store : Store σ) (s : σ),
        ((answer q).run store s).1 = ((answer q').run store s).1 ∧
          (answer q).talks store s = (answer q').talks store s ∧
          ((answer q).run store s).2.2 = ((answer q').run store s).2.2) ∧
      (b.op ≠ "new" → b.op ≠ "remove" →
        (∀ seconds w, Event.calls (serve seconds q w).events = [] ∧
          (serve seconds q w).world = w) ∧
        ∀ (σ : Type) (store : Store σ) (s : σ),
          (answer q).talks store s = [] ∧ ((answer q).run store s).2.2 = s) := by
  have hunlogged : (answer q).unlogged = (answer q').unlogged := by
    rw [answer_eq_of_submission hq, answer_eq_of_submission hq', postDecoded_unlogged h]
  refine ⟨serve_of_unlogged hunlogged, fun σ store s => ?_, fun hnew hremove => ?_⟩
  · have hrun := run_unlogged (answer q) store s
    have htalks := talks_unlogged (answer q) store s
    rw [hunlogged, run_unlogged] at hrun
    rw [hunlogged, talks_unlogged] at htalks
    injection hrun with hresult hstore
    injection hstore with _ hstore
    exact ⟨hresult.symm, htalks.symm, hstore.symm⟩
  · have hsilent : (answer q).Asks fun _ => False := by
      rw [answer_eq_of_submission hq]
      exact postDecoded_silent hnew hremove
    refine ⟨serve_of_silent hsilent, fun σ store s => ⟨?_, ?_⟩⟩
    · exact talks_of_silent hsilent store s
    · exact run_of_silent hsilent store s

theorem same_meaning_same_treatment_of_two_spellings :
    let q : Request := ⟨"POST", "/card?from=desk", ["[7,\" Alice\",\"CS\\u30".toUTF8.toList,
      "00\",\"教师\",\"new\"]".toUTF8.toList], none⟩
    let q' : Request :=
      ⟨"POST", "/card", ["[null,\"Alice\",\"\\tCS\",\"T \",\"new\"]".toUTF8.toList], none⟩
    let b : CardDesk.Request := ⟨some 7, " Alice", "CS\u3000", "教师", "new"⟩
    let b' : CardDesk.Request := ⟨none, "Alice", "\tCS", "T ", "new"⟩
    let w : World := .fresh fun
      | .findByIdentity => [some (.before 5)]
      | .insert => [some (.after 994)]
      | _ => []
    q.submission? = some b ∧ q'.submission? = some b' ∧ b.MeansSame b' ∧
      (serve 1 q' w).response = .text .ok created ∧
      (serve 1 q w).SameButForLog (serve 1 q' w) := by
  intro q q' b b' w
  have hq : q.submission? = some b := by decide +kernel
  have hq' : q'.submission? = some b' := by decide +kernel
  have hsame : b.MeansSame b' := by
    apply CardDesk.Request.MeansSame.new (c := .teacher) rfl rfl (by decide) (by decide) rfl rfl
    all_goals decide
  have hresponse : (serve 1 q' w).response = .text .ok created := by
    rw [serve, answer_eq_of_submission hq']
    decide
  exact ⟨hq, hq', hsame, hresponse, (same_meaning_same_treatment hq hq' hsame).1 1 w⟩

end Http

end CardDesk
