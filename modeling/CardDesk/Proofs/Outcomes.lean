import CardDesk.Proofs.Exchanges
import CardDesk.Proofs.Transcript

/-!
What comes of an errand over a database, by the statements that are sent for it and the replies to
them, whatever the replies are.
-/

namespace CardDesk

variable {σ : Type}

inductive TellsFailure : List Talk → Operation.Result → Prop
  | silent {x : Operation.Result} (h : ∀ e, x ≠ .error (.storeFailed e)) : TellsFailure [] x
  | failed {t : Talk} {e : StoreError} (h : t.failure? = some e) :
    TellsFailure [t] (.error (.storeFailed e))
  | passed {t : Talk} {ts : List Talk} {x : Operation.Result} (h : t.failure? = none)
    (hts : TellsFailure ts x) : TellsFailure (t :: ts) x

namespace Service

inductive Forwarded (c : Call) : List Talk → Except Refusal c.Answer → Prop
  | failed (e : StoreError) : Forwarded c [⟨c, .error e⟩] (.error (.storeFailed e))
  | passed (x : c.Answer) : Forwarded c [⟨c, .ok x⟩] (.ok x)

theorem list_forwarded (store : Store σ) (s : σ) :
    Forwarded Call.findAll (list.talks store s) (list.run store s).1 := by
  simp only [list, Dialogue.talks, Dialogue.run]
  rcases (store .findAll s).1 with e | cards
  · exact .failed e
  · exact .passed cards

theorem ping_forwarded (store : Store σ) (s : σ) :
    Forwarded Call.ping (ping.talks store s) (ping.run store s).1 := by
  simp only [ping, Dialogue.talks, Dialogue.run]
  rcases (store .ping s).1 with e | _
  · exact .failed e
  · exact .passed (c := .ping) ()

section

variable {c : Call} {talks : List Talk} {x : Except Refusal c.Answer}

theorem Forwarded.calls (h : Forwarded c talks x) : talks.map Sigma.fst = [c] := by
  cases h <;> rfl

theorem Forwarded.ok_iff {y : c.Answer} (h : Forwarded c talks x) :
    x = .ok y ↔ ⟨c, .ok y⟩ ∈ talks := by
  cases h <;> simp [eq_comm]

theorem Forwarded.ends (h : Forwarded c talks x) :
    (∃ y, x = .ok y) ∨ ∃ e, x = .error (.storeFailed e) := by
  cases h with
  | failed e => exact .inr ⟨e, rfl⟩
  | passed y => exact .inl ⟨y, rfl⟩

theorem Forwarded.tellsFailure (h : Forwarded c talks x) (hc : c.method ≠ .insert)
    (f : c.Answer → Operation.Value) : TellsFailure talks (x.map f) := by
  cases h with
  | failed e => exact .failed (Talk.failure?_eq_some_iff.mpr ⟨rfl, fun hm => absurd hm hc⟩)
  | passed x => exact .passed (Talk.failure?_ok x) (.silent nofun)

end

theorem Applied.tellsFailure {a : Application} {talks : List Talk} {x : Except Refusal Card}
    (h : Applied a talks x) : TellsFailure talks (x.map Operation.Value.card) := by
  cases h with
  | @invalid e h =>
    obtain ⟨fields, rfl⟩ := Application.exists_emptyFields h
    exact .silent nofun
  | lookupFailed _ e => exact .failed rfl
  | found _ c => exact .passed rfl (.silent nofun)
  | overtaken _ => exact .passed rfl (.passed rfl (.silent nofun))
  | insertFailed _ he =>
    exact .passed rfl (.failed (Talk.failure?_eq_some_iff.mpr ⟨rfl, fun _ => he⟩))
  | inserted _ id => exact .passed rfl (.passed rfl (.silent nofun))

theorem Withdrawn.tellsFailure {id : Int32} {talks : List Talk} {x : Except Refusal Unit}
    (h : Withdrawn id talks x) : TellsFailure talks (x.map fun _ => .nothing) := by
  cases h with
  | lookupFailed e => exact .failed rfl
  | missing => exact .passed rfl (.silent nofun)
  | deleteFailed c e => exact .passed rfl (.failed rfl)
  | overtaken c => exact .passed rfl (.passed rfl (.silent nofun))
  | deleted c => exact .passed rfl (.passed rfl (.silent nofun))

end Service

namespace Sql

/-- The failures among what is said for an operation are what it reports, and nothing is said after
one of them. -/
structure FailuresReported (t : List Exchange) (x : Operation.Result) : Prop where
  failed_iff : (∃ e, x = .error (.storeFailed e)) ↔ ∃ y ∈ t, y.Fails
  last : ∀ y ∈ t, y.Fails → t.getLast? = some y
  cause : ∀ s e, ⟨s, .refused e⟩ ∈ t → s.Fails (.refused e) →
    x = .error (.storeFailed (.database (.server e)))

def selectionOf (a : Application) : Statement :=
  .selectByIdentity a.name a.department a.category.code

def insertionOf (a : Application) : Statement :=
  .insert a.name a.department a.category.code

structure ApplicationSettled (a : Application) (t : List Exchange) (x : Operation.Result) :
    Prop where
  statements : t.map Exchange.statement = [selectionOf a] ∨
    t.map Exchange.statement = [selectionOf a, insertionOf a]
  parameters : ∀ y ∈ t, y.statement.parameters =
    [.text a.name, .text a.department, .text a.category.code]
  inserted_iff : insertionOf a ∈ t.map Exchange.statement ↔
    ∃ reply, ⟨selectionOf a, reply⟩ ∈ t ∧ reply.Rowless
  alreadyExists_iff : x = .error .alreadyExists ↔
    (∃ reply c, ⟨selectionOf a, reply⟩ ∈ t ∧ reply.Shows c) ∨
      (∃ reply, ⟨selectionOf a, reply⟩ ∈ t ∧ reply.Rowless) ∧
        ∃ reply, ⟨insertionOf a, reply⟩ ∈ t ∧ reply.Conflicts
  ok_iff : ∀ c, x = .ok (.card c) ↔ ∃ reply, ⟨insertionOf a, reply⟩ ∈ t ∧ reply.Gives c.id ∧
    c.name = a.name ∧ c.department = a.department ∧ c.category = a.category
  nothing_else : (∃ c, x = .ok (.card c)) ∨ x = .error .alreadyExists ∨
    ∃ e, x = .error (.storeFailed e)

structure RemovalSettled (id : Int32) (t : List Exchange) (x : Operation.Result) : Prop where
  statements : t.map Exchange.statement = [.selectById id] ∨
    t.map Exchange.statement = [.selectById id, .deleteById id]
  deleted_iff : .deleteById id ∈ t.map Exchange.statement ↔
    ∃ reply c, ⟨.selectById id, reply⟩ ∈ t ∧ reply.Shows c
  notFound_iff : x = .error (.notFound id) ↔
    (∃ reply, ⟨.selectById id, reply⟩ ∈ t ∧ reply.Rowless) ∨
      (∃ reply c, ⟨.selectById id, reply⟩ ∈ t ∧ reply.Shows c) ∧
        ∃ reply, ⟨.deleteById id, reply⟩ ∈ t ∧ ¬reply.Refused ∧ reply.count = 0
  ok_iff : x = .ok .nothing ↔
    ∃ reply, ⟨.deleteById id, reply⟩ ∈ t ∧ ¬reply.Refused ∧ 0 < reply.count
  nothing_else : x = .ok .nothing ∨ x = .error (.notFound id) ∨ ∃ e, x = .error (.storeFailed e)

structure ListingSettled (t : List Exchange) (x : Operation.Result) : Prop where
  statements : t.map Exchange.statement = [.selectAll]
  ok_iff : ∀ cards, x = .ok (.cards cards) ↔ ∃ reply, ⟨.selectAll, reply⟩ ∈ t ∧ reply.Lists cards
  nothing_else : (∃ cards, x = .ok (.cards cards)) ∨ ∃ e, x = .error (.storeFailed e)

structure PingSettled (t : List Exchange) (x : Operation.Result) : Prop where
  statements : t.map Exchange.statement = [.selectOne]
  ok_iff : x = .ok .nothing ↔ ∃ reply, ⟨.selectOne, reply⟩ ∈ t ∧ ¬reply.Refused
  nothing_else : x = .ok .nothing ∨ ∃ e, x = .error (.storeFailed e)

theorem FailuresReported.of_tellsFailure {talks : List Talk} {x : Operation.Result}
    (h : TellsFailure talks x) {t : List Exchange} (ht : List.Forall₂ Carried talks t) :
    FailuresReported t x := by
  induction h generalizing t with
  | silent h =>
    cases ht
    exact ⟨by simp [h], by simp, by simp⟩
  | @failed talk e h =>
    rcases ht with _ | @⟨_, y, _, _, hy, _ | _⟩
    have hfails : y.Fails := hy.fails_iff.mpr ⟨e, h⟩
    refine ⟨by simp [hfails], by simp, ?_⟩
    intro s cause hmem hs
    obtain rfl := List.mem_singleton.mp hmem
    have hcause := (understand_refused hy.statement hs).symm.trans hy.answer
    have he := (Talk.failure?_eq_some_iff.mp h).1
    rw [← hcause] at he
    cases he
    rfl
  | @passed talk talks x h _ ih =>
    rcases ht with _ | @⟨_, y, _, t, hy, ht⟩
    have hpassed : ¬y.Fails := by
      rw [hy.fails_iff, h]
      nofun
    obtain ⟨hiff, hlast, hcause⟩ := ih ht
    refine ⟨by simp [hiff, hpassed], ?_, ?_⟩
    · intro z hz hfails
      rcases List.mem_cons.mp hz with rfl | hz
      · exact absurd hfails hpassed
      · rw [List.getLast?_cons, hlast z hz hfails, Option.getD_some]
    · intro s cause hmem hs
      rcases List.mem_cons.mp hmem with rfl | hmem
      · exact absurd hs hpassed
      · exact hcause s cause hmem hs

theorem ApplicationSettled.of_told {a : Application} {talks : List Talk} {t : List Exchange}
    {x : Except Refusal Card} (h : Service.ApplicationTold a talks x)
    (ht : List.Forall₂ Carried talks t) (hfilled : a.name ≠ "" ∧ a.department ≠ "") :
    ApplicationSettled a t (x.map Operation.Value.card) := by
  have hcheck : a.check = .ok () := Application.check_eq_ok_iff.mpr hfilled
  have hlook (y : Except StoreError (Option Card)) : ⟨Service.lookupOf a, y⟩ ∈ talks ↔
      ∃ reply, ⟨selectionOf a, reply⟩ ∈ t ∧ foundCard reply = y := mem_talks_iff ht rfl
  have hinsert (y : Except StoreError Int32) : ⟨.insert a, y⟩ ∈ talks ↔
      ∃ reply, ⟨insertionOf a, reply⟩ ∈ t ∧ insertedId reply = y := mem_talks_iff ht rfl
  have hstatements : t.map Exchange.statement = [selectionOf a] ∨
      t.map Exchange.statement = [selectionOf a, insertionOf a] := by
    have hsaid : talks ≠ [] := fun hsilent => h.silent_iff.mp hsilent hcheck
    exact (h.calls hsaid).imp (statements_eq ht · rfl) (statements_eq ht · rfl)
  have hinserted : insertionOf a ∈ t.map Exchange.statement ↔
      ∃ reply, ⟨selectionOf a, reply⟩ ∈ t ∧ reply.Rowless := by
    simp only [Reply.rowless_iff]
    rw [mem_statements_iff (c := .insert a) (s := insertionOf a) ht rfl, h.inserts_iff, hlook]
  constructor
  case statements => exact hstatements
  case parameters =>
    intro y hy
    have hmem : y.statement ∈ t.map Exchange.statement := List.mem_map_of_mem hy
    have hone : y.statement = selectionOf a ∨ y.statement = insertionOf a := by
      rcases hstatements with hs | hs
      · rw [hs, List.mem_singleton] at hmem
        exact .inl hmem
      · simpa [hs] using hmem
    rcases hone with hone | hone
    all_goals
      rw [hone]
      rfl
  case inserted_iff => exact hinserted
  case alreadyExists_iff =>
    rw [map_eq_error_iff, h.alreadyExists_iff, hinsert]
    simp only [hlook, Reply.shows_iff, Reply.conflicts_iff]
    apply or_congr exists_comm
    -- An insertion has been sent only behind a reply of no row.
    apply Iff.symm (and_iff_right_of_imp _)
    rintro ⟨reply, hreply, -⟩
    exact hinserted.mp (List.mem_map_of_mem hreply)
  case ok_iff =>
    intro c
    have hcard : x.map Operation.Value.card = .ok (.card c) ↔ x = .ok c := by
      simp [map_eq_ok_iff]
    rw [hcard, h.ok_iff]
    simp only [hinsert, Reply.gives_iff]
    constructor
    · rintro ⟨id, ⟨reply, hreply, hid⟩, rfl, hfields⟩
      exact ⟨reply, hreply, hid, hfields⟩
    · rintro ⟨reply, hreply, hid, hfields⟩
      exact ⟨c.id, ⟨reply, hreply, hid⟩, rfl, hfields⟩
  case nothing_else =>
    cases x with
    | ok c => exact .inl ⟨c, rfl⟩
    | error e =>
      rcases h.nothing_else e rfl with rfl | ⟨cause, rfl⟩ | ⟨fields, rfl⟩
      · exact .inr (.inl rfl)
      · exact .inr (.inr ⟨cause, rfl⟩)
      · have hrefused := (h.invalid_iff fields).mp rfl
        rw [hcheck] at hrefused
        cases hrefused

theorem refused_settled {a : Application} {talks : List Talk} {t : List Exchange}
    {x : Except Refusal Card} (h : Service.ApplicationTold a talks x)
    (ht : List.Forall₂ Carried talks t) (hempty : a.name = "" ∨ a.department = "") :
    t = [] ∧ ∃ fields, x.map Operation.Value.card = .error (.emptyFields fields) := by
  have hcheck : a.check ≠ .ok () := by
    rw [ne_eq, Application.check_eq_ok_iff]
    grind
  obtain rfl := h.silent_iff.mpr hcheck
  cases ht
  obtain ⟨e, he⟩ : ∃ e, a.check = .error e := by
    cases hc : a.check with
    | ok u => exact absurd hc hcheck
    | error e => exact ⟨e, rfl⟩
  obtain ⟨fields, rfl⟩ := Application.exists_emptyFields he
  exact ⟨rfl, fields, map_eq_error_iff.mpr ((h.invalid_iff fields).mpr he)⟩

theorem RemovalSettled.of_told {id : Int32} {talks : List Talk} {t : List Exchange}
    {x : Except Refusal Unit} (h : Service.RemovalTold id talks x)
    (ht : List.Forall₂ Carried talks t) : RemovalSettled id t (x.map fun _ => .nothing) := by
  have hlook (y : Except StoreError (Option Card)) : ⟨.findById id, y⟩ ∈ talks ↔
      ∃ reply, ⟨.selectById id, reply⟩ ∈ t ∧ foundCard reply = y := mem_talks_iff ht rfl
  have hdelete (y : Except StoreError Bool) : ⟨.deleteById id, y⟩ ∈ talks ↔
      ∃ reply, ⟨.deleteById id, reply⟩ ∈ t ∧ removedAny reply = y := mem_talks_iff ht rfl
  have hdeleted : .deleteById id ∈ t.map Exchange.statement ↔
      ∃ reply c, ⟨.selectById id, reply⟩ ∈ t ∧ reply.Shows c := by
    simp only [Reply.shows_iff]
    rw [mem_statements_iff (c := .deleteById id) ht rfl, h.deletes_iff, exists_comm]
    simp only [hlook]
  constructor
  case statements => exact h.calls.imp (statements_eq ht · rfl) (statements_eq ht · rfl)
  case deleted_iff => exact hdeleted
  case notFound_iff =>
    rw [map_eq_error_iff, h.notFound_iff, hlook, hdelete]
    simp only [Reply.rowless_iff, Reply.affects_none_iff]
    apply or_congr .rfl
    apply Iff.symm (and_iff_right_of_imp _)
    rintro ⟨reply, hreply, -⟩
    exact hdeleted.mp (List.mem_map_of_mem hreply)
  case ok_iff =>
    have hok : (x.map fun _ => Operation.Value.nothing) = .ok .nothing ↔ x = .ok () := by
      cases x <;> simp [Except.map]
    rw [hok, h.ok_iff, hdelete]
    simp only [Reply.affects_some_iff]
  case nothing_else =>
    cases x with
    | ok u => exact .inl rfl
    | error e =>
      rcases h.nothing_else e rfl with rfl | ⟨cause, rfl⟩
      · exact .inr (.inl rfl)
      · exact .inr (.inr ⟨cause, rfl⟩)

theorem ListingSettled.of_forwarded {talks : List Talk} {t : List Exchange}
    {x : Except Refusal (List Card)} (h : Service.Forwarded .findAll talks x)
    (ht : List.Forall₂ Carried talks t) : ListingSettled t (x.map .cards) where
  statements := statements_eq ht h.calls rfl
  ok_iff cards := by
    have hok : x.map Operation.Value.cards = .ok (.cards cards) ↔ x = .ok cards := by
      simp [map_eq_ok_iff]
    rw [hok, h.ok_iff, mem_talks_iff ht rfl]
    simp only [Reply.lists_iff]
    rfl
  nothing_else := by
    rcases h.ends with ⟨cards, rfl⟩ | ⟨e, rfl⟩
    · exact .inl ⟨cards, rfl⟩
    · exact .inr ⟨e, rfl⟩

theorem PingSettled.of_forwarded {talks : List Talk} {t : List Exchange} {x : Except Refusal Unit}
    (h : Service.Forwarded .ping talks x) (ht : List.Forall₂ Carried talks t) :
    PingSettled t (x.map fun _ => .nothing) where
  statements := statements_eq ht h.calls rfl
  ok_iff := by
    have hok : (x.map fun _ => Operation.Value.nothing) = .ok .nothing ↔ x = .ok () := by
      cases x <;> simp [Except.map]
    rw [hok, h.ok_iff, mem_talks_iff ht rfl]
    simp only [Reply.not_refused_iff]
    rfl
  nothing_else := by
    rcases h.ends with ⟨u, rfl⟩ | ⟨e, rfl⟩
    · exact .inl rfl
    · exact .inr ⟨e, rfl⟩

def Turn.Settled (t : Turn) : Prop :=
  FailuresReported t.exchanges t.result ∧
    match t.errand with
    | .operation .list => ListingSettled t.exchanges t.result
    | .operation (.register a) =>
      (a.name ≠ "" ∧ a.department ≠ "" → ApplicationSettled a t.exchanges t.result) ∧
        (a.name = "" ∨ a.department = "" →
          t.exchanges = [] ∧ ∃ fields, t.result = .error (.emptyFields fields))
    | .operation (.remove id) => RemovalSettled id t.exchanges t.result
    | .ping => PingSettled t.exchanges t.result

theorem turn_settled (peer : Peer σ) (e : Errand) (database : σ) :
    (turn peer e ⟨database, false⟩).1.Settled := by
  obtain ⟨-, database', t, -, hturn, ht⟩ := turn_eq peer e database
  rw [hturn, Turn.Settled]
  rcases e with (_ | a | id) | _
  all_goals
    simp only [Errand.dialogue, Operation.dialogue, Dialogue.talks_map, Dialogue.run_map] at ht ⊢
  · have h := Service.list_forwarded (answer peer) ⟨database, false⟩
    exact ⟨.of_tellsFailure (h.tellsFailure (by decide) _) ht, .of_forwarded h ht⟩
  · have h := Service.register_applied a (answer peer) ⟨database, false⟩
    exact ⟨.of_tellsFailure h.tellsFailure ht, .of_told h.told ht, refused_settled h.told ht⟩
  · have h := Service.remove_withdrawn id (answer peer) ⟨database, false⟩
    exact ⟨.of_tellsFailure h.tellsFailure ht, .of_told h.told ht⟩
  · have h := Service.ping_forwarded (answer peer) ⟨database, false⟩
    exact ⟨.of_tellsFailure (h.tellsFailure (by decide) _) ht, .of_forwarded h ht⟩

theorem turns_results (peer : Peer σ) (database : σ) (es : List Errand) :
    (turns peer es ⟨database, false⟩).map Turn.errand = es ∧
      (turns peer es ⟨database, false⟩).map Turn.result =
        ((Dialogue.inOrder (es.map Errand.dialogue)).run (answer peer) ⟨database, false⟩).1 := by
  induction es generalizing database with
  | nil => exact ⟨rfl, rfl⟩
  | cons e es ih =>
    obtain ⟨records, database', t, hrun, hturn, -⟩ := turn_eq peer e database
    obtain ⟨herrands, hresults⟩ := ih database'
    rw [turns, hturn, List.map_cons, List.map_cons, herrands, hresults]
    refine ⟨rfl, ?_⟩
    rw [List.map_cons, Dialogue.inOrder, Dialogue.run_bind, hrun]
    dsimp only
    rw [Dialogue.run_bind]
    rfl

theorem settled_of_mem {peer : Peer σ} {database : σ} {es : List Errand} {t : Turn}
    (ht : t ∈ turns peer es ⟨database, false⟩) : t.Settled := by
  obtain ⟨database', heq⟩ := exists_turn_of_mem ht
  rw [heq]
  exact turn_settled peer t.errand database'

/-- Errands one after the other over a database, whatever it replies: each result follows from what
has been sent and replied for it. -/
theorem outcomes_settled (peer : Peer σ) (database : σ) (es : List Errand) :
    (turns peer es ⟨database, false⟩).map Turn.errand = es ∧
      (turns peer es ⟨database, false⟩).map Turn.result =
        ((Dialogue.inOrder (es.map Errand.dialogue)).run (answer peer) ⟨database, false⟩).1 ∧
      ∀ t ∈ turns peer es ⟨database, false⟩, t.Settled := by
  obtain ⟨herrands, hresults⟩ := turns_results peer database es
  exact ⟨herrands, hresults, fun t ht => settled_of_mem ht⟩

def scripted : Peer (List Reply)
  | _, [] => (.affected 0, [])
  | _, reply :: rest => (reply, rest)

/-- A found card, a conflict and a new card, then a removal, a refused and a corrupt look-up and a
deletion that comes too late. -/
theorem outcomes_settled_of_seven :
    let a : Application := ⟨"张三", "CS", .student⟩
    let row (code : String) : Reply := Table.replyRows [⟨7, "张三", "CS", code⟩]
    let refused : Reply := .refused ⟨"23505", "not unique"⟩
    let apply : Errand := .operation (.register a)
    let remove : Errand := .operation (.remove 7)
    let replies : List Reply := [row "S ", .affected 0, refused, .affected 0,
      .completed _ [Table.idRow 7] 1, row "S", .affected 1, refused, row "X", row "S", .affected 0]
    let ts := turns scripted [apply, apply, apply, remove, remove, remove, remove] ⟨replies, false⟩
    let select : Statement := .selectByIdentity "张三" "CS" "S"
    let insert : Statement := .insert "张三" "CS" "S"
    ts.map (fun t => (t.exchanges.map Exchange.statement, t.result)) =
        [([select], .error .alreadyExists), ([select, insert], .error .alreadyExists),
          ([select, insert], .ok (.card ⟨7, "张三", "CS", .student⟩)),
          ([.selectById 7, .deleteById 7], .ok .nothing),
          ([.selectById 7], .error (.storeFailed (.database (.server ⟨"23505", "not unique"⟩)))),
          ([.selectById 7],
            .error (.storeFailed (.corrupt "card 7 has unknown type code \"X\""))),
          ([.selectById 7, .deleteById 7], .error (.notFound 7))] ∧
      ∀ t ∈ ts, t.Settled := by
  intro a row refused apply remove replies ts select insert
  obtain ⟨-, -, hsettled⟩ := outcomes_settled scripted replies
    [apply, apply, apply, remove, remove, remove, remove]
  refine ⟨?_, hsettled⟩
  decide +kernel

end Sql

end CardDesk
