import CardDesk.Proofs.Moments
import CardDesk.Proofs.History

namespace CardDesk

structure Application.Normal (a : Application) : Prop where
  name_ne : a.name ≠ ""
  name_trimmed : Text.Trimmed a.name
  department_ne : a.department ≠ ""
  department_trimmed : Text.Trimmed a.department

theorem Application.normal_trimmed {name department : String} {category : Category}
    (h : (trimmed name department category).check = .ok ()) :
    (trimmed name department category).Normal := by
  obtain ⟨hname, hdepartment⟩ := check_eq_ok_iff.mp h
  exact ⟨hname, Text.trimmed_trim name, hdepartment, Text.trimmed_trim department⟩

def Call.Normal : Call → Prop
  | findByIdentity name department category => (Application.mk name department category).Normal
  | insert a => a.Normal
  | _ => True

namespace Register

structure Normal (r : Register) : Prop where
  wellKept : r.WellKept
  cards : ∀ c ∈ r.cards, c.application.Normal

theorem Normal.empty : Normal .empty where
  wellKept := .empty
  cards c hc := by cases hc

theorem Normal.answer {r : Register} {c : Call} (hc : c.Normal) (h : Normal r) :
    Normal (answer c r).2 := by
  refine ⟨h.wellKept.answer c, h.wellKept.cards_answer ?_ h.cards⟩
  rintro a rfl
  exact hc

theorem Normal.distinct {r : Register} (h : Normal r) :
    r.cards.Pairwise fun c d => ¬(Text.trim c.name = Text.trim d.name ∧
      Text.trim c.department = Text.trim d.department ∧ c.category = d.category) := by
  apply h.wellKept.cards_distinct.imp_of_mem
  rintro c d hc hd hne ⟨hname, hdepartment, hcategory⟩
  have hself {e : Card} (he : e ∈ r.cards) :
      Text.trim e.name = e.name ∧ Text.trim e.department = e.department :=
    ⟨(h.cards e he).name_trimmed.trim_eq, (h.cards e he).department_trimmed.trim_eq⟩
  rw [(hself hc).1, (hself hd).1] at hname
  rw [(hself hc).2, (hself hd).2] at hdepartment
  exact hne (by rw [Card.application, Card.application, hname, hdepartment, hcategory])

end Register

namespace Service

theorem register_asks_normal {a : Application} (h : a.check = .ok () → a.Normal) :
    (register a).Asks Call.Normal := by
  cases hc : a.check with
  | error e =>
    rw [register, hc]
    trivial
  | ok u => exact register_asks (h hc) (h hc)

end Service

namespace Http

theorem perform_asks_normal {command : Except Refusal Command}
    (h : ∀ a, command = .ok (.register a) → a.check = .ok () → a.Normal) :
    (perform command).Asks Call.Normal := by
  rcases command with e | a | id | op
  · trivial
  · apply (Service.register_asks_normal (h a rfl)).bind
    rintro (e | c) <;> trivial
  · have hremove : (Service.remove id).Asks Call.Normal := Service.remove_asks trivial trivial
    apply hremove.bind
    rintro (e | u) <;> trivial
  · trivial

theorem command_normal {b : CardDesk.Request} {a : Application}
    (h : b.command = .ok (.register a)) (hc : a.check = .ok ()) : a.Normal := by
  obtain ⟨-, category, -, rfl⟩ := CardDesk.Request.command_eq_register_iff.mp h
  exact Application.normal_trimmed hc

theorem answer_asks_normal (q : Request) : (answer q).Asks Call.Normal := by
  have hready : getReady.Asks Call.Normal := by
    refine ⟨trivial, fun x => ?_⟩
    cases x <;> trivial
  apply answer_induction
  case hdone => exact fun _ => trivial
  case hcards =>
    refine ⟨trivial, fun x => ?_⟩
    cases x <;> trivial
  case hready => exact hready
  case hhead => exact hready.bind fun _ => trivial
  case hmalformed => exact fun _ _ => trivial
  case hdecoded =>
    intro b
    exact (perform_asks_normal fun _ => command_normal).bind fun _ => trivial

/-- Whatever is asked of the desk, whatever goes wrong and however little time there is: at every
moment the cards are in normal form, no two of them differ in nothing but blanks, and nothing that
is looked for or inserted is in any other form. -/
theorem stored_normal (seconds : UInt64) (qs : List Request) (script : Script) :
    (∀ r ∈ moments seconds qs (.fresh script),
      (∀ c ∈ r.cards, c.name ≠ "" ∧ Text.Trimmed c.name ∧ c.department ≠ "" ∧
        Text.Trimmed c.department) ∧
      r.cards.Pairwise fun c d => ¬(Text.trim c.name = Text.trim d.name ∧
        Text.trim c.department = Text.trim d.department ∧ c.category = d.category)) ∧
    ∀ x ∈ serveAll seconds qs (.fresh script),
      x.world.register ∈ moments seconds qs (.fresh script) ∧
        ∀ c ∈ Event.calls x.events, c.Normal := by
  have hasks : ∀ q ∈ qs, (answer q).Asks Call.Normal := fun q _ => answer_asks_normal q
  constructor
  · intro r hr
    have h : r.Normal := moments_keep (fun _ _ => .answer) hasks seconds .empty r hr
    refine ⟨fun c hc => ?_, h.distinct⟩
    obtain ⟨hname, hname', hdepartment, hdepartment'⟩ := h.cards c hc
    exact ⟨hname, hname', hdepartment, hdepartment'⟩
  · intro x hx
    exact ⟨serveAll_mem_moments seconds qs _ x hx, serveAll_asks hasks seconds _ x hx⟩

theorem stored_normal_despite_lies :
    let new (name : String) : Request := ⟨"POST", "/card",
      [("[null,\"" ++ name ++ "\",\"CS\",\"T\",\"new\"]").toUTF8.toList], none⟩
    let qs := [new " Alice", new "Alice\u3000"]
    let script : Script := fun
      | .findByIdentity => [none, some .absent]
      | .insert => [some (.after 5000)]
      | _ => []
    let r : Register := ⟨1, [(1, ⟨1, "Alice", "CS", .teacher⟩)]⟩
    (serveAll 1 qs (.fresh script)).map (fun x => (x.response.status, x.world.register)) =
        [(.requestTimeout, r), (.ok, r)] ∧
      (∀ c ∈ r.cards, Text.Trimmed c.name) ∧
      ∀ x ∈ serveAll 1 qs (.fresh script), ∀ c ∈ Event.calls x.events, c.Normal := by
  intro new qs script r
  have hpath : pathOf "/card" = "/card" := by decide
  have hanswer (name : String) (hbody : (new name).body = .ok (new name).pieces.flatten)
      (hb : CardDesk.Request.ofJson (new name).pieces.flatten =
        .ok ⟨none, name, "CS", "T", "new"⟩) :
      answer (new name) = postDecoded ⟨none, name, "CS", "T", "new"⟩ :=
    answer_eq_postDecoded rfl hpath hbody hb
  have hfirst := hanswer " Alice" (by decide +kernel) (by decide +kernel)
  have hsecond := hanswer "Alice\u3000" (by decide +kernel) (by decide +kernel)
  have hrun : (serveAll 1 qs (.fresh script)).map
      (fun x => (x.response.status, x.world.register)) = [(.requestTimeout, r), (.ok, r)] := by
    simp only [qs, serveAll, serve, hfirst, hsecond]
    decide
  obtain ⟨hcards, hcalls⟩ := stored_normal 1 qs script
  refine ⟨hrun, ?_, fun x hx => (hcalls x hx).2⟩
  have hmem : (Status.ok, r) ∈ (serveAll 1 qs (.fresh script)).map
      fun x => (x.response.status, x.world.register) := by
    rw [hrun]
    simp
  obtain ⟨x, hx, hr⟩ := List.mem_map.mp hmem
  have hr : x.world.register = r := congrArg Prod.snd hr
  have hmoment := (hcalls x hx).1
  rw [hr] at hmoment
  exact fun c hc => ((hcards r hmoment).1 c hc).2.1

end Http

end CardDesk
