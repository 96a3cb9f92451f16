import CardDesk.Proofs.Replies
import CardDesk.Proofs.TableMirror

namespace CardDesk

variable {σ α β : Type}

inductive Errand where
  | operation (o : Operation)
  | ping
  deriving DecidableEq, Repr

def Errand.dialogue : Errand → Dialogue Operation.Result
  | operation o => o.dialogue
  | ping => Service.ping.bind fun x => .done (x.map fun _ => .nothing)

namespace Dialogue

theorem talks_map (store : Store σ) (d : Dialogue α) (f : α → β) (s : σ) :
    (d.bind fun a => .done (f a)).talks store s = d.talks store s := by
  induction d generalizing s with
  | done a => rfl
  | note r d ih => exact ih s
  | ask c k ih => exact congrArg (List.cons _) (ih _ _)

theorem run_map (store : Store σ) (d : Dialogue α) (f : α → β) (s : σ) :
    ((d.bind fun a => .done (f a)).run store s).1 = f (d.run store s).1 := by
  rw [run_bind]
  rfl

end Dialogue

theorem Errand.never_releases (e : Errand) : e.dialogue.Asks fun c => c ≠ .release := by
  cases e with
  | operation o => exact o.never_releases
  | ping =>
    apply Dialogue.Asks.bind
    · refine ⟨by simp, fun x => ?_⟩
      cases x <;> trivial
    · exact fun _ => trivial

namespace Sql

structure Exchange where
  statement : Statement
  reply : Reply
  deriving DecidableEq, Repr

def Statement.Fails : Statement → Reply → Prop
  | .selectAll, reply => reply.Unlistable
  | .selectByIdentity .., reply => reply.Unusable
  | .insert .., reply => reply.Unnumbered
  | .selectById _, reply => reply.Unusable
  | .deleteById _, reply => reply.Refused
  | .selectOne, reply => reply.Refused

def Exchange.Fails (e : Exchange) : Prop :=
  e.statement.Fails e.reply

/-- A database of which it is kept what it has been sent and has replied. -/
def Peer.recorded (peer : Peer σ) : Peer (σ × List Exchange) := fun statement s =>
  ((peer statement s.1).1,
    ((peer statement s.1).2, s.2 ++ [⟨statement, (peer statement s.1).1⟩]))

structure Turn where
  errand : Errand
  exchanges : List Exchange
  result : Operation.Result

def turn (peer : Peer σ) (e : Errand) (s : Connection σ) : Turn × Connection σ :=
  let (x, _, s) := e.dialogue.run (answer peer.recorded) ⟨(s.database, []), s.closed⟩
  (⟨e, s.database.2, x⟩, ⟨s.database.1, s.closed⟩)

def turns (peer : Peer σ) : List Errand → Connection σ → List Turn
  | [], _ => []
  | e :: es, s => (turn peer e s).1 :: turns peer es (turn peer e s).2

structure Carried (t : Talk) (e : Exchange) : Prop where
  statement : statement? t.1 = some e.statement
  answer : understand t.1 e.reply = t.2

theorem carried_iff {c : Call} {s : Statement} (hs : statement? c = some s)
    {x : Except StoreError c.Answer} {e : Exchange} :
    Carried ⟨c, x⟩ e ↔ ∃ reply, e = ⟨s, reply⟩ ∧ understand c reply = x := by
  constructor
  · rintro ⟨hstatement, hanswer⟩
    obtain ⟨s', reply⟩ := e
    obtain rfl : s = s' := Option.some.inj (hs.symm.trans hstatement)
    exact ⟨reply, rfl, hanswer⟩
  · rintro ⟨reply, rfl, hanswer⟩
    exact ⟨hs, hanswer⟩

theorem exists_statement {c : Call} (h : c ≠ .release) : ∃ s, statement? c = some s := by
  cases c with
  | release => exact absurd rfl h
  | _ => exact ⟨_, rfl⟩

theorem run_recorded (peer : Peer σ) {d : Dialogue α} (hd : d.Asks fun c => c ≠ .release)
    (database : σ) (log : List Exchange) :
    ∃ records database' t,
      d.run (answer peer) ⟨database, false⟩ =
        ((d.run (answer peer) ⟨database, false⟩).1, records, ⟨database', false⟩) ∧
      d.run (answer peer.recorded) ⟨(database, log), false⟩ =
        ((d.run (answer peer) ⟨database, false⟩).1, records, ⟨(database', log ++ t), false⟩) ∧
      List.Forall₂ Carried (d.talks (answer peer) ⟨database, false⟩) t := by
  induction d generalizing database log with
  | done a => exact ⟨[], database, [], rfl, by rw [List.append_nil]; rfl, .nil⟩
  | note r d ih =>
    obtain ⟨records, database', t, hrun, hrecorded, ht⟩ := ih hd database log
    refine ⟨r :: records, database', t, ?_, ?_, ht⟩
    · rw [Dialogue.run, hrun]
    · rw [Dialogue.run, hrecorded]
      rfl
  | ask c k ih =>
    obtain ⟨s, hs⟩ := exists_statement hd.1
    obtain ⟨records, database', t, hrun, hrecorded, ht⟩ :=
      ih (understand c (peer s database).1) (hd.2 _) (peer s database).2
        (log ++ [⟨s, (peer s database).1⟩])
    refine ⟨records, database', ⟨s, (peer s database).1⟩ :: t, ?_, ?_, ?_⟩
    · rw [Dialogue.run, answer_of_open peer hs]
      exact hrun
    · rw [Dialogue.run, Dialogue.run, answer_of_open peer hs, answer_of_open _ hs]
      rw [List.append_cons]
      exact hrecorded
    · rw [Dialogue.talks, answer_of_open peer hs]
      exact .cons ((carried_iff hs).mpr ⟨_, rfl, rfl⟩) ht

theorem statement?_injective {c c' : Call} {s : Statement} (hc : statement? c = some s)
    (hc' : statement? c' = some s) : c = c' := by
  rcases c with _ | ⟨name, department, k⟩ | ⟨⟨name, department, k⟩⟩ | id | id | _ | _
  all_goals cases hc
  all_goals rcases c' with _ | ⟨n, d, k'⟩ | ⟨⟨n, d, k'⟩⟩ | id' | id' | _ | _
  all_goals simp [statement?] at hc' ⊢
  all_goals grind [code_injective]

section Sides

variable {talks : List Talk} {t : List Exchange} {c : Call} {s : Statement}

theorem map_statements (ht : List.Forall₂ Carried talks t) :
    (t.map Exchange.statement).map some = (talks.map Sigma.fst).map statement? := by
  induction ht with
  | nil => rfl
  | cons hy _ ih => simp [hy.statement, ih]

theorem statements_eq (ht : List.Forall₂ Carried talks t) {cs : List Call} {ss : List Statement}
    (hcs : talks.map Sigma.fst = cs) (hss : cs.map statement? = ss.map some) :
    t.map Exchange.statement = ss := by
  apply (List.map_inj_right fun _ _ => Option.some.inj).mp
  rw [map_statements ht, hcs, hss]

theorem mem_statements_iff (ht : List.Forall₂ Carried talks t) (hs : statement? c = some s) :
    s ∈ t.map Exchange.statement ↔ c ∈ talks.map Sigma.fst := by
  induction ht with
  | nil => simp
  | @cons talk y talks t hy _ ih =>
    have hhead : s = y.statement ↔ c = talk.1 := by
      constructor
      · rintro rfl
        exact statement?_injective hs hy.statement
      · rintro rfl
        exact Option.some.inj (hs.symm.trans hy.statement)
    rw [List.map_cons, List.map_cons, List.mem_cons, List.mem_cons, ih, hhead]

theorem mem_talks_iff (ht : List.Forall₂ Carried talks t) (hs : statement? c = some s)
    {x : Except StoreError c.Answer} :
    ⟨c, x⟩ ∈ talks ↔ ∃ reply, ⟨s, reply⟩ ∈ t ∧ understand c reply = x := by
  induction ht with
  | nil => simp
  | @cons talk y talks t hy _ ih =>
    have hhead : ⟨c, x⟩ = talk ↔ ∃ reply, ⟨s, reply⟩ = y ∧ understand c reply = x := by
      constructor
      · rintro rfl
        obtain ⟨reply, rfl, hreply⟩ := (carried_iff hs).mp hy
        exact ⟨reply, rfl, hreply⟩
      · rintro ⟨reply, rfl, rfl⟩
        obtain ⟨c', x'⟩ := talk
        obtain rfl := statement?_injective hs hy.statement
        rw [hy.answer]
    rw [List.mem_cons, ih, hhead]
    simp only [List.mem_cons, or_and_right, exists_or]

end Sides

theorem fails_iff {c : Call} {s : Statement} (hs : statement? c = some s) (reply : Reply) :
    s.Fails reply ↔ ∃ e, Talk.failure? ⟨c, understand c reply⟩ = some e := by
  simp only [Talk.failure?_eq_some_iff]
  cases c with
  | release => cases hs
  | ping =>
    cases hs
    simp [Statement.Fails, understand, Call.method, Reply.refused_iff_acknowledged]
  | _ =>
    cases hs
    simp [Statement.Fails, understand, Call.method, Reply.unusable_iff, Reply.unlistable_iff,
      Reply.unnumbered_iff, Reply.refused_iff]

theorem understand_refused {c : Call} {s : Statement} (hs : statement? c = some s)
    {e : ServerError} (h : s.Fails (.refused e)) :
    understand c (.refused e) = .error (.database (.server e)) := by
  cases c with
  | release => cases hs
  | insert a =>
    cases hs
    exact if_neg h
  | _ => rfl

theorem Carried.fails_iff {t : Talk} {y : Exchange} (h : Carried t y) :
    y.Fails ↔ ∃ e, t.failure? = some e := by
  rw [Exchange.Fails, Sql.fails_iff h.statement, h.answer]

theorem turn_eq (peer : Peer σ) (e : Errand) (database : σ) :
    ∃ records database' t,
      e.dialogue.run (answer peer) ⟨database, false⟩ =
        ((e.dialogue.run (answer peer) ⟨database, false⟩).1, records, ⟨database', false⟩) ∧
      turn peer e ⟨database, false⟩ =
        (⟨e, t, (e.dialogue.run (answer peer) ⟨database, false⟩).1⟩, ⟨database', false⟩) ∧
      List.Forall₂ Carried (e.dialogue.talks (answer peer) ⟨database, false⟩) t := by
  obtain ⟨records, database', t, hrun, hrecorded, ht⟩ :=
    run_recorded peer e.never_releases database []
  refine ⟨records, database', t, hrun, ?_, ht⟩
  rw [turn, hrecorded]
  rfl

theorem exists_turn_of_mem {peer : Peer σ} {es : List Errand} {database : σ} {t : Turn}
    (ht : t ∈ turns peer es ⟨database, false⟩) :
    ∃ database', t = (turn peer t.errand ⟨database', false⟩).1 := by
  induction es generalizing database with
  | nil => cases ht
  | cons e es ih =>
    obtain ⟨-, database', t', -, hturn, -⟩ := turn_eq peer e database
    rw [turns] at ht
    rcases List.mem_cons.mp ht with rfl | ht
    · exact ⟨database, rfl⟩
    · rw [hturn] at ht
      exact ih ht

end Sql

end CardDesk
