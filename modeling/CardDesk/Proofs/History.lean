import CardDesk.Proofs.Ledger
import CardDesk.Proofs.Listing
import CardDesk.Proofs.Numbering
import CardDesk.Proofs.Operation
import CardDesk.Proofs.Session

namespace CardDesk

variable {α β : Type}

theorem World.fresh_none : World.fresh .none = ⟨.empty, .none⟩ :=
  rfl

namespace Dialogue

theorem outcome_bind (d : Dialogue α) (f : α → Dialogue β) (r : Register) :
    (d.bind f).outcome r = (f (d.outcome r).1).outcome (d.outcome r).2 := by
  rw [outcome, run_bind]
  rfl

theorem within_undisturbed (d : Dialogue α) {limit : Option Nat} {now : Nat}
    (h : reached limit now = false) (r : Register) :
    (d.within limit now ⟨r, .none⟩).result = some (d.outcome r).1 ∧
      (d.within limit now ⟨r, .none⟩).world = ⟨(d.outcome r).2, .none⟩ := by
  induction d generalizing r with
  | done a => exact ⟨rfl, rfl⟩
  | note record d ih => exact ih r
  | ask c k ih =>
    have hbegin : World.begin c ⟨r, .none⟩ = (.passed 0 0, ⟨r, .none⟩) := rfl
    rw [within, hbegin]
    simp only [Nat.add_zero, h]
    exact ih (Register.answer c r).1 (Register.answer c r).2

end Dialogue

namespace Service

theorem register_outcome_of_refused {a : Application} {e : Refusal} (h : a.check = .error e)
    (r : Register) : (register a).outcome r = (.error e, r) := by
  rw [register, h]
  rfl

theorem register_outcome_of_found {a : Application} {r : Register} {c : Card}
    (h : a.check = .ok ()) (hf : r.findByIdentity a = some c) :
    (register a).outcome r = (.error .alreadyExists, r) := by
  rw [register, h]
  simp [Register.answer, hf]

theorem register_outcome {a : Application} {r : Register} (h : a.check = .ok ())
    (hf : r.findByIdentity a = none) :
    (register a).outcome r = (.ok (a.card (r.lastId + 1)), (r.insert a).2) := by
  rw [register, h]
  simp [Register.answer, hf, insert, Register.insert_of_not_found hf]

theorem remove_outcome_of_not_found {id : Int32} {r : Register} (h : r.findById id = none) :
    (remove id).outcome r = (.error (.notFound id), r) := by
  simp [remove, Register.answer, h]

theorem remove_outcome {id : Int32} {r : Register} {c : Card} (h : r.findById id = some c) :
    (remove id).outcome r = (.ok (), (r.deleteById id).2) := by
  simp [remove, Register.answer, h, delete, Register.deleteById_of_found h]

end Service

theorem Refusal.message_head (e : Refusal) : e.message.toList.head? ≠ some 'S' := by
  cases e with
  | alreadyExists => decide
  | notFound id =>
    change ("Card " ++ toString id.toInt ++ " does not exist.").toList.head? ≠ some 'S'
    simp
  | unknownLabel label =>
    change ("Unknown card type \"" ++ label ++ "\", expected 教师, 学生, T or S.").toList.head? ≠ _
    simp
  | idRequired => decide
  | emptyFields fields =>
    change (" ".intercalate (fields.map Application.Field.complaint)).toList.head? ≠ some 'S'
    rcases fields with _ | ⟨f, _ | ⟨g, fields⟩⟩
    · decide
    · cases f <;> decide
    · cases f <;> simp [Application.Field.complaint, String.intercalate_cons_cons]
  | storeFailed e =>
    change "Failed to access the card store.".toList.head? ≠ some 'S'
    decide

theorem Refusal.message_ne (e : Refusal) {s : String} (h : s.toList.head? = some 'S') :
    e.message ≠ s := by
  intro he
  exact e.message_head (he ▸ h)

namespace Request

theorem command_eq_register_iff {b : Request} {a : Application} :
    b.command = .ok (.register a) ↔ b.op = "new" ∧
      ∃ category, Category.ofLabel? (b.label.getD "") = some category ∧
        a = .trimmed (b.name.getD "") (b.department.getD "") category := by
  rw [command]
  by_cases hn : b.op = "new"
  · rw [if_pos hn]
    cases hc : Category.ofLabel? (b.label.getD "") with
    | none => simp [hc]
    | some category => simp [hc, hn, eq_comm]
  · rw [if_neg hn]
    refine ⟨fun h => ?_, fun h => absurd h.1 hn⟩
    split at h
    · split at h <;> cases h
    · cases h

theorem command_eq_remove_iff {b : Request} {id : Int32} :
    b.command = .ok (.remove id) ↔ b.op = "remove" ∧ b.id = some id := by
  rw [command]
  by_cases hn : b.op = "new"
  · rw [if_pos hn]
    refine ⟨fun h => ?_, fun h => ?_⟩
    · dsimp only at h
      split at h <;> cases h
    · simp [hn] at h
  · rw [if_neg hn]
    by_cases hr : b.op = "remove"
    · rw [if_pos hr]
      cases hid : b.id with
      | none => simp
      | some id => simp [hr]
    · simp [hr]

end Request

namespace Http

def exchanges (seconds : UInt64) (qs : List Request) (w : World) : List (Request × Response) :=
  qs.zip ((serveAll seconds qs w).map Exchange.response)

def history (seconds : UInt64) (qs : List Request) : List (Request × Response) :=
  exchanges seconds qs (.fresh .none)

theorem reached_limitOf {seconds : UInt64} (h : seconds ≠ 0) :
    reached (some (limitOf seconds)) 0 = false := by
  have hpos : seconds.toNat ≠ 0 := by
    intro h0
    exact h (UInt64.toNat_inj.mp h0)
  rw [reached, decide_eq_false_iff_not, limitOf]
  split
  · omega
  · decide

theorem serve_undisturbed {seconds : UInt64} (h : seconds ≠ 0) (q : Request) (r : Register) :
    (serve seconds q ⟨r, .none⟩).response = ((answer q).outcome r).1 ∧
      (serve seconds q ⟨r, .none⟩).world = ⟨((answer q).outcome r).2, .none⟩ := by
  have hlimit := reached_limitOf h
  obtain ⟨hresult, hworld⟩ := (answer q).within_undisturbed hlimit r
  rw [serve, hlimit]
  exact ⟨by simp [hresult], hworld⟩

def registerAfter (qs : List Request) (r : Register) : Register :=
  qs.foldl (fun r q => ((answer q).outcome r).2) r

theorem exchanges_cons {seconds : UInt64} (h : seconds ≠ 0) (q : Request) (qs : List Request)
    (r : Register) :
    exchanges seconds (q :: qs) ⟨r, .none⟩ =
      (q, ((answer q).outcome r).1) ::
        exchanges seconds qs ⟨((answer q).outcome r).2, .none⟩ := by
  obtain ⟨hresponse, hworld⟩ := serve_undisturbed h q r
  rw [exchanges, serveAll, List.map_cons, List.zip_cons_cons, hresponse, hworld, exchanges]

theorem exchanges_append {seconds : UInt64} (h : seconds ≠ 0) (qs qs' : List Request)
    (r : Register) :
    exchanges seconds (qs ++ qs') ⟨r, .none⟩ =
      exchanges seconds qs ⟨r, .none⟩ ++ exchanges seconds qs' ⟨registerAfter qs r, .none⟩ := by
  induction qs generalizing r with
  | nil => rfl
  | cons q qs ih =>
    rw [List.cons_append, exchanges_cons h, exchanges_cons h, ih, List.cons_append]
    rfl

theorem exchanges_requests {seconds : UInt64} (h : seconds ≠ 0) (qs : List Request)
    (r : Register) : (exchanges seconds qs ⟨r, .none⟩).map Prod.fst = qs := by
  induction qs generalizing r with
  | nil => rfl
  | cons q qs ih => rw [exchanges_cons h, List.map_cons, ih]

theorem ofPath?_eq_card_iff {path : String} : Route.ofPath? path = some .card ↔ path = "/card" :=
  Route.ofPath?_eq_some_iff

theorem answer_of_submission {q : Request} {b : CardDesk.Request} (h : q.submission? = some b)
    (r : Register) :
    (answer q).outcome r =
      (.text .ok ((perform b.command).outcome r).1, ((perform b.command).outcome r).2) := by
  rw [answer_eq_of_submission h, postDecoded, Dialogue.outcome_note, Dialogue.outcome_bind,
    Dialogue.outcome_done]

theorem answer_eq_getCards {q : Request} (hm : q.method = "GET")
    (hp : pathOf q.target = "/card") : answer q = getCards := by
  rw [answer, ofPath?_eq_card_iff.mpr hp, answerCard, if_pos hm]

theorem answer_of_get {q : Request} (hm : q.method = "GET") (hp : pathOf q.target = "/card")
    (r : Register) : (answer q).outcome r = (.json .ok (cardsJson r.cards), r) := by
  rw [answer_eq_getCards hm hp]
  rfl

theorem answer_of_no_submission {q : Request} (h : q.submission? = none) (r : Register) :
    ((answer q).outcome r).2 = r := by
  apply answer_induction_on (P := fun d => (d.outcome r).2 = r)
  case hdone => exact fun x => rfl
  case hcards => rfl
  case hready => rfl
  case hhead => rfl
  case hmalformed => exact fun c x => rfl
  case hdecoded =>
    intro bytes b hm hp hbody hb
    have hq := submission?_eq_some_iff.mpr ⟨hm, hp, bytes, hbody, hb⟩
    rw [h] at hq
    cases hq

inductive Performed (r : Register) : Except Refusal Command → String → Register → Prop
  | registered {a : Application} (hc : a.check = .ok ()) (hf : r.findByIdentity a = none) :
    Performed r (.ok (.register a)) created (r.insert a).2
  | removed {id : Int32} {c : Card} (hf : r.findById id = some c) :
    Performed r (.ok (.remove id)) removed (r.deleteById id).2
  | refused {command : Except Refusal Command} {m : String} (hn : m ≠ created) (hm : m ≠ removed)
    (hr : ∀ a, command = .ok (.register a) → a.check = .ok () → r.findByIdentity a ≠ none)
    (hd : ∀ id, command = .ok (.remove id) → r.findById id = none) : Performed r command m r

theorem performed (command : Except Refusal Command) (r : Register) :
    Performed r command ((perform command).outcome r).1 ((perform command).outcome r).2 := by
  have hrefused (e : Refusal) : e.message ≠ created ∧ e.message ≠ removed :=
    ⟨e.message_ne (by decide), e.message_ne (by decide)⟩
  rcases command with e | a | id | op
  · exact .refused (hrefused e).1 (hrefused e).2 (by simp) (by simp)
  · rw [perform, Dialogue.outcome_bind]
    cases hc : a.check with
    | error e =>
      rw [Service.register_outcome_of_refused hc]
      apply Performed.refused (hrefused e).1 (hrefused e).2
      · rintro b ⟨⟩ hb
        rw [hc] at hb
        cases hb
      · simp
    | ok u =>
      cases hf : r.findByIdentity a with
      | some c =>
        rw [Service.register_outcome_of_found hc hf]
        apply Performed.refused (hrefused .alreadyExists).1 (hrefused .alreadyExists).2
        · rintro b ⟨⟩ -
          simp [hf]
        · simp
      | none =>
        rw [Service.register_outcome hc hf]
        exact .registered hc hf
  · rw [perform, Dialogue.outcome_bind]
    cases hf : r.findById id with
    | some c =>
      rw [Service.remove_outcome hf]
      exact .removed hf
    | none =>
      rw [Service.remove_outcome_of_not_found hf]
      apply Performed.refused (hrefused (.notFound id)).1 (hrefused (.notFound id)).2
      · simp
      · rintro id' ⟨⟩
        exact hf
  · have hn : invalidOperation ≠ created := by decide
    have hm : invalidOperation ≠ removed := by decide
    exact .refused hn hm (by simp) (by simp)

theorem answer_performed {q : Request} {b : CardDesk.Request} (h : q.submission? = some b)
    (r : Register) :
    ∃ m r', (answer q).outcome r = (.text .ok m, r') ∧ Performed r b.command m r' :=
  ⟨_, _, answer_of_submission h r, performed b.command r⟩

inductive Changed (r : Register) : Option Confirmation → Register → Prop
  | registered {a : Application} (hc : a.check = .ok ()) (hf : r.findByIdentity a = none) :
    Changed r (some (.registered a.name a.department a.category)) (r.insert a).2
  | removed {id : Int32} {c : Card} (hf : r.findById id = some c) :
    Changed r (some (.removed id)) (r.deleteById id).2
  | nothing : Changed r none r

theorem changed (q : Request) (r : Register) :
    Changed r (confirmed? q ((answer q).outcome r).1) ((answer q).outcome r).2 := by
  cases hq : q.submission? with
  | none =>
    rw [answer_of_no_submission hq, confirmed?, hq]
    exact .nothing
  | some b =>
    obtain ⟨m, r', hanswer, hp⟩ := answer_performed hq r
    rw [hanswer, confirmed?, hq]
    simp only [says_text_iff, ← Category.ofLabel?_eq]
    generalize hcommand : b.command = command at hp
    cases hp with
    | @registered a hc hf =>
      obtain ⟨hop, category, hcategory, rfl⟩ :=
        CardDesk.Request.command_eq_register_iff.mp hcommand
      rw [if_pos ⟨hop, rfl⟩, hcategory]
      exact .registered hc hf
    | @removed id c hf =>
      obtain ⟨hop, hid⟩ := CardDesk.Request.command_eq_remove_iff.mp hcommand
      rw [if_neg (by rw [hop]; decide), if_pos ⟨hop, rfl⟩, hid]
      exact .removed hf
    | refused hn hm =>
      rw [if_neg fun h => hn h.2, if_neg fun h => hm h.2]
      exact .nothing

/-- The register against the ledger of what clients have been told. -/
structure Agrees (l : Ledger) (r : Register) : Prop where
  wellKept : r.WellKept
  last : r.lastId.toInt = l.issued
  cards : r.cards = l.live
  known : ∀ row ∈ r.rows, row.1.toInt ≤ l.issued

/-- What is to be answered when the ledger is as given. -/
structure Answered (l : Ledger) (q : Request) (x : Response) : Prop where
  created_iff : ∀ b, q.submission? = some b → b.op = "new" →
    (x.Says "Successfully created a card." ↔
      ∃ category, Text.trim (b.label.getD "") ∈ Category.labels category ∧
        Text.trim (b.name.getD "") ≠ "" ∧ Text.trim (b.department.getD "") ≠ "" ∧
        ¬∃ c ∈ l.live, c.name = Text.trim (b.name.getD "") ∧
          c.department = Text.trim (b.department.getD "") ∧ c.category = category)
  removed_iff : ∀ b, q.submission? = some b → b.op = "remove" →
    (x.Says "Successfully removed the card." ↔ ∃ id, b.id = some id ∧ ∃ c ∈ l.live, c.id = id)
  listed : q.method = "GET" → pathOf q.target = "/card" →
    x.status.code = 200 ∧ ListsCards l.live (Json.bytesOf x.body)

namespace Agrees

variable {l : Ledger} {r : Register}

theorem empty : Agrees {} .empty where
  wellKept := .empty
  last := rfl
  cards := rfl
  known row hr := by cases hr

theorem numbered (h : Agrees l r) : r.Numbered :=
  ⟨h.wellKept, fun row hr => h.last ▸ h.known row hr⟩

theorem register (h : Agrees l r) {a : Application} (hf : r.findByIdentity a = none)
    (hfew : l.issued + 1 < 2 ^ 31) :
    Agrees ⟨l.issued + 1,
      l.live ++ [⟨Int32.ofNat (l.issued + 1), a.name, a.department, a.category⟩]⟩
      (r.insert a).2 := by
  have hfew' : r.lastId.toInt + 1 < 2 ^ 31 := by
    rw [h.last]
    exact_mod_cast hfew
  have hlast : (r.lastId + 1).toInt = ((l.issued + 1 : Nat) : Int) := by
    rw [Register.toInt_succ hfew', h.last, Int.natCast_succ]
  have hid := Register.succ_eq_ofNat h.last hfew
  have hr' := h.numbered.insert hf hfew'
  rw [h.numbered.insert_eq hf hfew'] at hr' ⊢
  refine ⟨hr'.wellKept, hlast, ?_, fun row hr => ?_⟩
  · rw [← hid, ← h.cards]
    simp [Register.cards, Application.card]
  · rw [← hlast]
    exact hr'.known row hr

theorem remove (h : Agrees l r) (id : Int32) :
    Agrees { l with live := l.live.filter fun c => c.id ≠ id } (r.deleteById id).2 where
  wellKept := h.wellKept.deleteById id
  last := h.last
  cards := by rw [h.wellKept.deleteById_cards, h.cards]
  known row hr := h.known row (List.mem_of_mem_filter hr)

theorem note (h : Agrees l r) (q : Request)
    (hfew : (l.note (q, ((answer q).outcome r).1)).issued < 2 ^ 31) :
    Agrees (l.note (q, ((answer q).outcome r).1)) ((answer q).outcome r).2 := by
  have hc := changed q r
  rw [Ledger.note] at hfew ⊢
  generalize confirmed? q ((answer q).outcome r).1 = confirmation at hc hfew ⊢
  generalize ((answer q).outcome r).2 = r' at hc ⊢
  cases hc with
  | registered hc hf => exact h.register hf hfew
  | @removed id => exact h.remove id
  | nothing => exact h

theorem findByIdentity_eq_none_iff (h : Agrees l r) (a : Application) :
    r.findByIdentity a = none ↔ ¬∃ c ∈ l.live, c.application = a := by
  rw [← h.cards]
  exact Register.findByIdentity_eq_none_iff

theorem findById_eq_none_iff (h : Agrees l r) (id : Int32) :
    r.findById id = none ↔ ¬∃ c ∈ l.live, c.id = id := by
  rw [← h.cards, Option.eq_none_iff_forall_ne_some]
  simp only [ne_eq, h.wellKept.findById_iff, not_exists]

theorem created_iff (h : Agrees l r) {q : Request} {b : CardDesk.Request}
    (hq : q.submission? = some b) (hop : b.op = "new") :
    ((answer q).outcome r).1.Says "Successfully created a card." ↔
      ∃ a, b.command = .ok (.register a) ∧ a.check = .ok () ∧ ¬∃ c ∈ l.live, c.application = a := by
  obtain ⟨m, r', hanswer, hp⟩ := answer_performed hq r
  rw [hanswer, says_text_iff]
  generalize hcommand : b.command = command at hp
  cases hp with
  | @registered a hc hf =>
    refine iff_of_true rfl ⟨a, rfl, hc, ?_⟩
    exact (h.findByIdentity_eq_none_iff a).mp hf
  | removed =>
    rw [(CardDesk.Request.command_eq_remove_iff.mp hcommand).1] at hop
    exact absurd hop (by decide)
  | refused hn _ hr =>
    refine iff_of_false hn ?_
    rintro ⟨a, ha, hc, hfree⟩
    exact hr a ha hc ((h.findByIdentity_eq_none_iff a).mpr hfree)

theorem removed_iff (h : Agrees l r) {q : Request} {b : CardDesk.Request}
    (hq : q.submission? = some b) (hop : b.op = "remove") :
    ((answer q).outcome r).1.Says "Successfully removed the card." ↔
      ∃ id, b.command = .ok (.remove id) ∧ ∃ c ∈ l.live, c.id = id := by
  obtain ⟨m, r', hanswer, hp⟩ := answer_performed hq r
  rw [hanswer, says_text_iff]
  generalize hcommand : b.command = command at hp
  cases hp with
  | registered =>
    rw [(CardDesk.Request.command_eq_register_iff.mp hcommand).1] at hop
    exact absurd hop (by decide)
  | @removed id c hf =>
    obtain ⟨hc, hid⟩ := h.wellKept.findById_iff.mp hf
    exact iff_of_true rfl ⟨id, rfl, c, h.cards ▸ hc, hid⟩
  | refused _ hm _ hd =>
    refine iff_of_false hm ?_
    rintro ⟨id, hid, hc⟩
    exact (h.findById_eq_none_iff id).mp (hd id hid) hc

theorem answered (h : Agrees l r) (q : Request) : Answered l q ((answer q).outcome r).1 where
  created_iff b hq hop := by
    rw [h.created_iff hq hop]
    simp only [CardDesk.Request.command_eq_register_iff, Application.check_eq_ok_iff,
      Category.ofLabel?_eq_some_iff]
    constructor
    · rintro ⟨a, ⟨-, category, hcategory, rfl⟩, ⟨hn, hd⟩, hfree⟩
      refine ⟨category, hcategory, hn, hd, ?_⟩
      rintro ⟨c, hc, hn', hd', hc'⟩
      exact hfree ⟨c, hc, by rw [Card.application, hn', hd', hc', Application.trimmed]⟩
    · rintro ⟨category, hcategory, hn, hd, hfree⟩
      refine ⟨_, ⟨hop, category, hcategory, rfl⟩, ⟨hn, hd⟩, ?_⟩
      rintro ⟨c, hc, happ⟩
      rw [Card.application, Application.trimmed, Application.mk.injEq] at happ
      exact hfree ⟨c, hc, happ⟩
  removed_iff b hq hop := by
    rw [h.removed_iff hq hop]
    simp only [CardDesk.Request.command_eq_remove_iff, hop, true_and]
  listed hm hp := by
    rw [answer_of_get hm hp, h.cards]
    exact ⟨rfl, cardsJson_listsCards l.live⟩

end Agrees

theorem Agrees.after {seconds : UInt64} (hs : seconds ≠ 0) {l : Ledger} {r : Register}
    (h : Agrees l r) (qs : List Request)
    (hfew : ((exchanges seconds qs ⟨r, .none⟩).foldl Ledger.note l).issued < 2 ^ 31) :
    Agrees ((exchanges seconds qs ⟨r, .none⟩).foldl Ledger.note l) (registerAfter qs r) := by
  induction qs generalizing l r with
  | nil => exact h
  | cons q qs ih =>
    rw [exchanges_cons hs, List.foldl_cons] at hfew ⊢
    exact ih (h.note q (Nat.lt_of_le_of_lt (Ledger.issued_le_foldl _ _) hfew)) hfew

theorem registerAfter_of_not_confirmed {q : Request} {r : Register}
    (h : confirmed? q ((answer q).outcome r).1 = none) : ((answer q).outcome r).2 = r := by
  have hc := changed q r
  rw [h] at hc
  generalize ((answer q).outcome r).2 = r' at hc
  cases hc
  rfl

/-- What is answered to a request follows from the ledger of what has been told before it, and
requests that have not been told to have changed anything may as well not have been made. -/
theorem history_answered {seconds : UInt64} (hs : seconds ≠ 0) (qs : List Request)
    (hfew : (ledger (history seconds qs)).issued < 2 ^ 31) :
    (history seconds qs).map Prod.fst = qs ∧
      ∀ before q x after, history seconds qs = before ++ (q, x) :: after →
        Answered (ledger before) q x ∧ (∀ c, c ∈ (ledger before).live ↔ Standing before c) ∧
          ((ledger before).live.Pairwise fun c d => c.id < d.id) ∧
          (confirmed? q x = none →
            history seconds (before.map Prod.fst ++ after.map Prod.fst) = before ++ after) := by
  have hrequests : (history seconds qs).map Prod.fst = qs := exchanges_requests hs qs .empty
  refine ⟨hrequests, fun before q x after hsplit => ?_⟩
  have hqs : qs = before.map Prod.fst ++ q :: after.map Prod.fst := by
    rw [← hrequests, hsplit, List.map_append, List.map_cons]
  generalize hpre : before.map Prod.fst = pre at hqs ⊢
  generalize after.map Prod.fst = post at hqs ⊢
  subst hqs
  have hlength : (exchanges seconds pre ⟨.empty, .none⟩).length = before.length := by
    rw [← List.length_map Prod.fst, exchanges_requests hs, ← hpre, List.length_map]
  have hexchanges := hsplit
  rw [history, World.fresh_none, exchanges_append hs, exchanges_cons hs] at hexchanges
  obtain ⟨hbefore, hrest⟩ := List.append_inj hexchanges hlength
  obtain ⟨hx, hafter⟩ := List.cons_eq_cons.mp hrest
  cases hx
  have hagrees : Agrees (ledger before) (registerAfter pre .empty) := by
    rw [hsplit, ledger, List.foldl_append] at hfew
    rw [← hbefore]
    apply Agrees.empty.after hs
    rw [hbefore]
    exact Nat.lt_of_le_of_lt (Ledger.issued_le_foldl _ _) hfew
  refine ⟨hagrees.answered q, fun c => mem_live_iff, ?_, fun hnone => ?_⟩
  · rw [← hagrees.cards]
    exact hagrees.wellKept.cards_ascending
  rw [registerAfter_of_not_confirmed hnone] at hafter
  rw [history, World.fresh_none, exchanges_append hs, hbefore, hafter]

theorem history_answered_after_removal :
    let post (body : String) : Request := ⟨"POST", "/card", [body.toUTF8.toList], none⟩
    let get : Request := ⟨"GET", "/card?", [], none⟩
    let alice := post "[null,\" Alice \",\"CS\",\"教师\",\"new\"]"
    let remove := post "[1,null,null,null,\"remove\"]"
    let bob := post "[null,\"Bob\",\"EE\",\"S\",\"new\"]"
    let qs := [alice, alice, get, remove, bob, get]
    let h := history 30 qs
    h.map (fun e => e.2.body) = ["Successfully created a card.", "The card already exists!",
        "[\x7b\"id\":1,\"name\":\"Alice\",\"department\":\"CS\",\"type\":\"T\"\x7d]",
        "Successfully removed the card.", "Successfully created a card.",
        "[\x7b\"id\":2,\"name\":\"Bob\",\"department\":\"EE\",\"type\":\"S\"\x7d]"] ∧
      (ledger h).issued = 2 ∧ (ledger h).live = [⟨2, "Bob", "EE", .student⟩] ∧
      h.map Prod.fst = qs ∧
      ∀ before q x after, h = before ++ (q, x) :: after → Answered (ledger before) q x := by
  intro post get alice remove bob qs h
  let r : Register := ⟨1, [(1, ⟨1, "Alice", "CS", .teacher⟩)]⟩
  let r' : Register := ⟨2, [(2, ⟨2, "Bob", "EE", .student⟩)]⟩
  have halice : alice.submission? = some ⟨none, " Alice ", "CS", "教师", "new"⟩ := by decide +kernel
  have hremove : remove.submission? = some ⟨some 1, none, none, none, "remove"⟩ := by decide +kernel
  have hbob : bob.submission? = some ⟨none, "Bob", "EE", "S", "new"⟩ := by decide +kernel
  have hget : get.submission? = none := by decide +kernel
  have hfirst : (answer alice).outcome .empty = (.text .ok created, r) := by
    rw [answer_of_submission halice]
    decide
  have hagain : (answer alice).outcome r = (.text .ok "The card already exists!", r) := by
    rw [answer_of_submission halice]
    decide
  have hremoved : (answer remove).outcome r = (.text .ok removed, ⟨1, []⟩) := by
    rw [answer_of_submission hremove]
    decide
  have hsecond : (answer bob).outcome ⟨1, []⟩ = (.text .ok created, r') := by
    rw [answer_of_submission hbob]
    decide
  have hlist (r : Register) : (answer get).outcome r = (.json .ok (cardsJson r.cards), r) :=
    answer_of_get rfl (by decide) r
  have hh : h = [(alice, .text .ok created), (alice, .text .ok "The card already exists!"),
      (get, .json .ok (cardsJson r.cards)), (remove, .text .ok removed),
      (bob, .text .ok created), (get, .json .ok (cardsJson r'.cards))] := by
    have hs : (30 : UInt64) ≠ 0 := by decide
    change exchanges 30 qs ⟨.empty, .none⟩ = _
    simp only [qs, exchanges_cons hs, hfirst, hagain, hremoved, hsecond, hlist]
    rfl
  have hnoted : confirmed? alice (.text .ok created) =
      some (.registered "Alice" "CS" .teacher) := by
    rw [confirmed?, halice]
    decide
  have hrefused : confirmed? alice (.text .ok "The card already exists!") = none := by
    rw [confirmed?, halice]
    decide
  have hfreed : confirmed? remove (.text .ok removed) = some (.removed 1) := by
    rw [confirmed?, hremove]
    decide
  have hnext : confirmed? bob (.text .ok created) = some (.registered "Bob" "EE" .student) := by
    rw [confirmed?, hbob]
    decide
  have hseen (x : Response) : confirmed? get x = none := by rw [confirmed?, hget]
  have hledger : ledger h = ⟨2, [⟨2, "Bob", "EE", .student⟩]⟩ := by
    simp only [hh, ledger, List.foldl_cons, List.foldl_nil, Ledger.note, hnoted, hrefused, hfreed,
      hnext, hseen]
    rfl
  have hfew : (ledger h).issued < 2 ^ 31 := by
    rw [hledger]
    decide
  obtain ⟨hrequests, hanswered⟩ := history_answered (by decide) qs hfew
  refine ⟨?_, by rw [hledger], by rw [hledger], hrequests, ?_⟩
  · rw [hh]
    decide +kernel
  · exact fun before q x after hsplit => (hanswered before q x after hsplit).1

end Http

end CardDesk
