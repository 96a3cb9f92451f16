import CardDesk.Proofs.Numbering
import CardDesk.Proofs.Operation
import CardDesk.Proofs.Passes
import CardDesk.Sql.Store
import CardDesk.Sql.Table
import Mathlib.Algebra.Group.Nat.Defs

namespace CardDesk

variable {α : Type}

namespace Sql

def CardRow.ofCard (c : Card) : CardRow :=
  ⟨c.id, c.name, c.department, c.category.code⟩

theorem CardRow.card_ofCard (c : Card) : (ofCard c).card = .ok c := by
  rw [card, ofCard, Category.ofCode?_code]

theorem code_injective {c d : Category} (h : c.code = d.code) : c = d := by
  have hd := Category.ofCode?_code d
  rw [← h, Category.ofCode?_code] at hd
  exact Option.some.inj hd

theorem sameIdentity_ofCard (a : Application) (c : Card) :
    Table.sameIdentity a.name a.department a.category.code (.ofCard c) =
      decide (c.application = a) := by
  obtain ⟨name, department, category⟩ := a
  rw [Table.sameIdentity, CardRow.ofCard, Bool.eq_iff_iff]
  simp only [Bool.and_eq_true, decide_eq_true_eq, Card.application, Application.mk.injEq,
    and_assoc]
  constructor
  · rintro ⟨hn, hd, hc⟩
    exact ⟨hn, hd, code_injective hc⟩
  · rintro ⟨rfl, rfl, rfl⟩
    exact ⟨rfl, rfl, rfl⟩

theorem readRow_row (r : CardRow) : readRow (Table.row r).entries = .ok r := by
  have hid : Int32.ofInt r.id.toInt = r.id := Int32.ofInt_toInt r.id
  simp [readRow, readNamed, cellNamed?, Row.entries, Table.row, cardColumns, readCell, readAs?, hid,
    bind, Except.bind, pure, Except.pure]

theorem readCards_rows (cs : List Card) :
    readCards ((cs.map CardRow.ofCard).map Table.row) = .ok cs := by
  rw [readCards, mapM_map_ok (f := fun row : Row cardColumns => readRow row.entries) readRow_row]
  exact mapM_map_ok CardRow.card_ofCard cs

theorem readCard?_rows (cs : List Card) :
    readCard? ((cs.map CardRow.ofCard).map Table.row) = .ok cs.head? := by
  cases cs with
  | nil => rfl
  | cons c cs =>
    rw [List.map_cons, List.map_cons, readCard?, readRow_row]
    change (CardRow.ofCard c).card.map some = _
    rw [CardRow.card_ofCard]
    rfl

theorem select_cards {t : Table} {cs : List Card} (h : t.rows = cs.map CardRow.ofCard)
    (p : CardRow → Bool) :
    foundCard (t.select p) = .ok (cs.find? fun c => p (.ofCard c)) := by
  change readCard? ((t.rows.filter p).map Table.row) = _
  rw [h, List.filter_map, readCard?_rows, List.head?_filter]
  rfl

theorem insertedId_row (id : Int32) :
    insertedId (.completed _ [Table.idRow id] 1) = .ok id := by
  have hid : Int32.ofInt id.toInt = id := Int32.ofInt_toInt id
  simp [insertedId, readId, Row.entries, Table.idRow, readCell, readAs?, hid]

theorem removedAny_affected {t : Table} {cs : List Card} (h : t.rows = cs.map CardRow.ofCard)
    (id : Int32) :
    removedAny (.affected (t.rows.filter fun r => r.id = id).length) =
      .ok (cs.any fun c => c.id = id) := by
  rw [Reply.affected, removedAny, Except.ok.injEq, Bool.eq_iff_iff, decide_eq_true_eq, h,
    List.filter_map, List.length_map, List.length_pos_iff_exists_mem, List.any_eq_true]
  simp only [List.mem_filter]
  rfl

theorem answer_of_open {σ : Type} (peer : Peer σ) {c : Call} {s : Statement}
    (h : statement? c = some s) (database : σ) :
    answer peer c ⟨database, false⟩ =
      (understand c (peer s database).1, ⟨(peer s database).2, false⟩) := by
  rw [answer, h]
  rfl

end Sql

namespace Register

theorem WellKept.findById_eq {r : Register} (h : r.WellKept) (id : Int32) :
    r.findById id = r.cards.find? fun c => c.id = id := by
  apply Option.ext
  intro c
  rw [h.findById_iff]
  constructor
  · rintro ⟨hc, rfl⟩
    obtain ⟨d, hd⟩ := Option.isSome_iff_exists.mp
      (List.find?_isSome (p := fun d => decide (d.id = c.id)).mpr ⟨c, hc, by simp⟩)
    have hid : d.id = c.id := by simpa using List.find?_some hd
    rw [hd, h.eq_of_id (List.mem_of_find?_eq_some hd) hc hid]
  · intro hc
    exact ⟨List.mem_of_find?_eq_some hc, by simpa using List.find?_some hc⟩

end Register

namespace Sql

/-- A table whose rows are the cards of a register in which no id has been passed over. -/
structure Mirrors (t : Table) (r : Register) : Prop where
  wellKept : r.WellKept
  last : t.lastId = r.lastId
  rows : t.rows = r.cards.map CardRow.ofCard
  known : ∀ row ∈ r.rows, row.1.toInt ≤ r.lastId.toInt

namespace Mirrors

variable {t : Table} {r : Register}

theorem empty : Mirrors {} .empty where
  wellKept := .empty
  last := rfl
  rows := rfl
  known row hr := by cases hr

theorem numbered (h : Mirrors t r) : r.Numbered :=
  ⟨h.wellKept, h.known⟩

theorem ordered (h : Mirrors t r) : Table.ordered t.rows = t.rows := by
  apply List.mergeSort_of_pairwise
  rw [h.rows]
  apply List.pairwise_map.mpr
  apply h.wellKept.cards_ascending.imp
  intro c d hlt
  exact decide_eq_true (Int32.le_of_lt hlt)

theorem any_identity (h : Mirrors t r) (a : Application) :
    t.rows.any (Table.sameIdentity a.name a.department a.category.code) =
      r.cards.any fun c => c.application = a := by
  rw [h.rows, List.any_map]
  congr 1
  funext c
  exact sameIdentity_ofCard a c

theorem insert_of_found (h : Mirrors t r) {a : Application} {c : Card}
    (hf : r.findByIdentity a = some c) :
    Sql.answer Table.peer (.insert a) ⟨t, false⟩ = (.error .duplicate, ⟨t, false⟩) := by
  have hany := (Register.any_application_iff r a).mpr ⟨c, hf⟩
  rw [answer_of_open _ rfl, Table.peer_eq, Table.reply, h.any_identity, hany, if_pos rfl]
  rfl

theorem insert_of_not_found (h : Mirrors t r) {a : Application}
    (hf : r.findByIdentity a = none) (hfew : r.lastId.toInt + 1 < 2 ^ 31) :
    ∃ t', Sql.answer Table.peer (.insert a) ⟨t, false⟩ = (.ok (r.lastId + 1), ⟨t', false⟩) ∧
      Mirrors t' (r.insert a).2 := by
  have hany : ¬(r.cards.any fun c => c.application = a) = true := by
    rw [Register.any_application_iff, hf]
    simp
  have hkept := h.numbered.insert hf hfew
  rw [h.numbered.insert_eq hf hfew] at hkept ⊢
  refine ⟨⟨r.lastId + 1, t.rows ++ [CardRow.ofCard (a.card (r.lastId + 1))]⟩, ?_, ?_⟩
  · rw [answer_of_open _ rfl, Table.peer_eq, Table.reply, h.any_identity, if_neg hany, h.last]
    exact Prod.ext (insertedId_row _) rfl
  · refine ⟨hkept.wellKept, rfl, ?_, hkept.known⟩
    simp [h.rows, Register.cards]

theorem deleteById (h : Mirrors t r) (id : Int32) :
    ∃ t', Sql.answer Table.peer (.deleteById id) ⟨t, false⟩ =
        (.ok (r.deleteById id).1, ⟨t', false⟩) ∧ Mirrors t' (r.deleteById id).2 := by
  have hany : (r.cards.any fun c => c.id = id) = (r.deleteById id).1 := by
    rw [Register.deleteById, Register.cards, List.any_map, Bool.eq_iff_iff, List.any_eq_true,
      List.any_eq_true]
    apply exists_congr
    intro row
    apply and_congr_right
    intro hr
    rw [h.wellKept.keyed row hr]
    rfl
  refine ⟨{ t with rows := t.rows.filter fun row => row.id ≠ id }, ?_, ?_⟩
  · rw [answer_of_open _ rfl, Table.peer_eq, Table.reply]
    exact Prod.ext ((removedAny_affected h.rows id).trans (congrArg _ hany)) rfl
  · refine ⟨h.wellKept.deleteById id, h.last, ?_, ?_⟩
    · rw [h.wellKept.deleteById_cards, h.rows, List.filter_map]
      rfl
    · intro row hr
      exact h.known row (List.mem_of_mem_filter hr)

theorem answer (h : Mirrors t r) {c : Call} (hc : c ≠ .release)
    (hfew : r.lastId.toInt + [(⟨c, (Register.answer c r).1⟩ : Talk)].countP Talk.inserts < 2 ^ 31) :
    ∃ t', Sql.answer Table.peer c ⟨t, false⟩ = ((Register.answer c r).1, ⟨t', false⟩) ∧
      Mirrors t' (Register.answer c r).2 := by
  cases c with
  | findAll =>
    refine ⟨t, ?_, h⟩
    rw [answer_of_open _ rfl, Table.peer_eq]
    change (readCards ((Table.ordered t.rows).map Table.row), _) = _
    rw [h.ordered, h.rows, readCards_rows]
    rfl
  | findByIdentity name department category =>
    refine ⟨t, ?_, h⟩
    rw [answer_of_open _ rfl, Table.peer_eq]
    change (foundCard (t.select _), _) = _
    rw [select_cards h.rows]
    simp only [sameIdentity_ofCard ⟨name, department, category⟩]
    rfl
  | insert a =>
    cases hf : r.findByIdentity a with
    | some c =>
      refine ⟨t, ?_, ?_⟩
      · rw [h.insert_of_found hf, Register.answer, Register.insert_of_found hf]
      · rw [Register.answer, Register.insert_of_found hf]
        exact h
    | none =>
      simp only [Register.answer, Register.insert_of_not_found hf, Talk.inserts,
        List.countP_singleton] at hfew
      obtain ⟨t', ht, ht'⟩ := h.insert_of_not_found hf hfew
      refine ⟨t', ?_, ht'⟩
      rw [ht, Register.answer, Register.insert_of_not_found hf]
  | findById id =>
    refine ⟨t, ?_, h⟩
    rw [answer_of_open _ rfl, Table.peer_eq]
    change (foundCard (t.select _), _) = _
    rw [select_cards h.rows, Register.answer, h.wellKept.findById_eq]
    rfl
  | deleteById id => exact h.deleteById id
  | ping => exact ⟨t, rfl, h⟩
  | release => exact absurd rfl hc

theorem run (h : Mirrors t r) {d : Dialogue α} (hd : d.Asks fun c => c ≠ .release)
    (hfew : r.lastId.toInt + (d.talks Register.answer r).countP Talk.inserts < 2 ^ 31) :
    ∃ t', d.run (Sql.answer Table.peer) ⟨t, false⟩ =
        ((d.run Register.answer r).1, (d.run Register.answer r).2.1, ⟨t', false⟩) ∧
      Mirrors t' (d.run Register.answer r).2.2 := by
  induction d generalizing t r with
  | done a => exact ⟨t, rfl, h⟩
  | note record d ih =>
    obtain ⟨t', hrun, ht'⟩ := ih h hd hfew
    refine ⟨t', ?_, ht'⟩
    rw [Dialogue.run, hrun]
    rfl
  | ask c k ih =>
    rw [Dialogue.talks, ← List.singleton_append, List.countP_append] at hfew
    have hone : r.lastId.toInt +
        [(⟨c, (Register.answer c r).1⟩ : Talk)].countP Talk.inserts < 2 ^ 31 := by omega
    obtain ⟨t₁, hanswer, ht₁⟩ := h.answer hd.1 hone
    have hlast := Register.lastId_answer hone
    obtain ⟨t', hrun, ht'⟩ := ih (Register.answer c r).1 ht₁ (hd.2 _) (by omega)
    refine ⟨t', ?_, ht'⟩
    rw [Dialogue.run, hanswer]
    exact hrun

end Mirrors

inductive Step where
  | call (c : Call)
  | operation (o : Operation)
  deriving DecidableEq, Repr

def Step.dialogue : Step → Dialogue (Talk ⊕ Operation.Result)
  | call c => .ask c fun x => .done (.inl ⟨c, x⟩)
  | operation o => o.dialogue.bind fun x => .done (.inr x)

def dialogueOf (steps : List Step) : Dialogue (List (Talk ⊕ Operation.Result)) :=
  .inOrder (steps.map Step.dialogue)

end Sql

theorem Operation.never_releases (o : Operation) : o.dialogue.Asks fun c => c ≠ .release := by
  cases o with
  | list => exact (Service.list_asks (by simp)).bind fun _ => trivial
  | register a => exact (Service.register_asks (by simp) (by simp)).bind fun _ => trivial
  | remove id => exact (Service.remove_asks (by simp) (by simp)).bind fun _ => trivial

namespace Sql

theorem dialogueOf_asks {steps : List Step} (h : .call .release ∉ steps) :
    (dialogueOf steps).Asks fun c => c ≠ .release := by
  apply Dialogue.Asks.inOrder
  intro d hd
  obtain ⟨step, hstep, rfl⟩ := List.mem_map.mp hd
  cases step with
  | call c =>
    refine ⟨?_, fun _ => trivial⟩
    rintro rfl
    exact h hstep
  | operation o => exact o.never_releases.bind fun _ => trivial

/-- From an empty table and an empty register the same is answered at every step, and the same is
logged; the rows of the table are the cards of the register, each read back as its card. -/
theorem table_mirrors_register (steps : List Step) (hopen : .call .release ∉ steps)
    (hfew : ((dialogueOf steps).talks Register.answer .empty).countP Talk.inserts < 2 ^ 31) :
    ∃ t, (dialogueOf steps).run (Sql.answer Table.peer) ⟨{}, false⟩ =
        (((dialogueOf steps).run Register.answer .empty).1,
          ((dialogueOf steps).run Register.answer .empty).2.1, ⟨t, false⟩) ∧
      t.rows = ((dialogueOf steps).run Register.answer .empty).2.2.cards.map CardRow.ofCard ∧
      t.rows.mapM CardRow.card = .ok ((dialogueOf steps).run Register.answer .empty).2.2.cards := by
  have hzero : Register.empty.lastId.toInt = 0 := rfl
  obtain ⟨t, hrun, ht⟩ := Mirrors.empty.run (dialogueOf_asks hopen) (by omega)
  refine ⟨t, hrun, ht.rows, ?_⟩
  rw [ht.rows]
  exact mapM_map_ok CardRow.card_ofCard _

theorem table_mirrors_register_after_refusals :
    let bob : Application := ⟨" Bob", "EE", .teacher⟩
    let steps : List Step := [.call (.insert bob), .operation (.register ⟨"Alice", "CS", .student⟩),
      .call (.insert bob), .operation (.remove 1), .operation (.remove 1),
      .call (.findByIdentity " Bob" "EE" .teacher), .call (.insert bob), .operation .list]
    .call .release ∉ steps ∧
      ((dialogueOf steps).talks Register.answer .empty).countP Talk.inserts = 3 ∧
      ∃ t, (dialogueOf steps).run (Sql.answer Table.peer) ⟨{}, false⟩ =
          (((dialogueOf steps).run Register.answer .empty).1,
            ((dialogueOf steps).run Register.answer .empty).2.1, ⟨t, false⟩) ∧
        t.rows = [⟨2, "Alice", "CS", "S"⟩, ⟨3, " Bob", "EE", "T"⟩] := by
  intro bob steps
  have hopen : .call .release ∉ steps := by decide
  have hcount : ((dialogueOf steps).talks Register.answer .empty).countP Talk.inserts = 3 := by
    decide
  obtain ⟨t, hrun, hrows, -⟩ := table_mirrors_register steps hopen (by rw [hcount]; decide)
  refine ⟨hopen, hcount, t, hrun, ?_⟩
  rw [hrows]
  decide

end Sql

end CardDesk
