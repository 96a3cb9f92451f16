import CardDesk.Proofs.Discretion
import CardDesk.Proofs.Exchanges
import CardDesk.Proofs.Gain
import CardDesk.Proofs.History

/-!
The log as a book of the cards. Whoever reads nothing but the records of registrations and removals
comes to the cards that are in the register, as long as no request is dropped half-way.
-/

namespace CardDesk

variable {α β : Type}

structure Listed where
  id : String
  name : String
  type : String
  deriving DecidableEq, Repr

inductive Entry where
  | added (row : Listed)
  | dropped (id : String)
  deriving DecidableEq, Repr

def Record.entry? (r : Record) : Option Entry :=
  if r.level ≠ .info then none
  else if r.message = "Card registered" then do
    return .added ⟨← r.fields.lookup "id", ← r.fields.lookup "name",
      ← r.fields.lookup "card_type"⟩
  else if r.message = "Card removed" then (r.fields.lookup "id").map .dropped
  else none

def entries (log : List Record) : List Entry :=
  log.filterMap Record.entry?

def Entry.post (rows : List Listed) : Entry → List Listed
  | added row => rows ++ [row]
  | dropped id => rows.filter fun row => row.id ≠ id

/-- The cards as the log tells of them. -/
def replay (log : List Record) : List Listed :=
  (entries log).foldl Entry.post []

def Card.listed (c : Card) : Listed :=
  ⟨toString c.id.toInt, c.name, c.category.code⟩

def Gain.entry : Gain → Entry
  | registered c => .added c.listed
  | removed id => .dropped (toString id.toInt)

def Gain.entries (g : Option Gain) : List Entry :=
  g.toList.map Gain.entry

theorem entries_append (log more : List Record) :
    entries (log ++ more) = entries log ++ entries more :=
  List.filterMap_append

theorem replay_append (log more : List Record) :
    replay (log ++ more) = (entries more).foldl Entry.post (replay log) := by
  rw [replay, entries_append, List.foldl_append]
  rfl

theorem listed_filter (cards : List Card) (id : Int32) :
    ((cards.map Card.listed).filter fun row => row.id ≠ toString id.toInt) =
      (cards.filter fun c => c.id ≠ id).map Card.listed := by
  rw [List.filter_map]
  congr 1
  apply List.filter_congr
  intro c _
  exact decide_eq_decide.mpr (not_congr Json.toString_id_inj)

def Call.gain? : (c : Call) → Except StoreError c.Answer → Option Gain
  | insert a, .ok id => some (.registered (a.card id))
  | deleteById id, .ok true => some (.removed id)
  | _, _ => none

theorem Call.gain?_of_tellsNoChange {c : Call} {x : Except StoreError c.Answer}
    (h : c.TellsNoChange x) : c.gain? x = none := by
  cases c with
  | insert a =>
    obtain ⟨e, rfl⟩ := h
    rfl
  | deleteById id =>
    rcases x with e | _ | _
    · rfl
    · rfl
    · exact absurd rfl h
  | _ => rfl

def Register.Gains (r : Register) (g : Option Gain) (r' : Register) : Prop :=
  ∃ o, Operation.Settled o r g r'

theorem Register.eq_of_gains_none {r r' : Register} (h : r.Gains none r') : r' = r := by
  obtain ⟨o, ho⟩ := h
  cases ho
  rfl

theorem Register.answer_gains (c : Call) (r : Register) :
    r.Gains (c.gain? (answer c r).1) (answer c r).2 := by
  cases c with
  | insert a =>
    refine ⟨.register a, ?_⟩
    cases hf : r.findByIdentity a with
    | some c =>
      rw [answer, insert_of_found hf]
      exact .unchanged
    | none =>
      have hins := insert_of_not_found hf
      rw [answer, hins]
      exact .registered rfl hins
  | deleteById id =>
    refine ⟨.remove id, ?_⟩
    cases hf : r.findById id with
    | none =>
      rw [answer, deleteById_of_not_found hf]
      exact .unchanged
    | some c =>
      have hdel := deleteById_of_found hf
      rw [answer, hdel]
      exact .removed rfl hdel
  | _ => exact ⟨.list, .unchanged⟩

namespace Dialogue

inductive Closed (P : α → Prop) : Dialogue α → Prop
  | done {a : α} (h : P a) : Closed P (done a)
  | note {r : Record} {d : Dialogue α} (hr : r.entry? = none) (h : Closed P d) :
    Closed P (note r d)

inductive Booked (P : Option Gain → α → Prop) : Dialogue α → Prop
  | done {a : α} (h : P none a) : Booked P (done a)
  | note {r : Record} {d : Dialogue α} (hr : r.entry? = none) (h : Booked P d) :
    Booked P (note r d)
  | ask {c : Call} {k : Except StoreError c.Answer → Dialogue α}
    (hnone : ∀ x, c.gain? x = none → Booked P (k x))
    (hsome : ∀ x g, c.gain? x = some g →
      ∃ r d, k x = .note r d ∧ r.entry? = some g.entry ∧ Closed (P (some g)) d) :
    Booked P (ask c k)

theorem Closed.booked {P : Option Gain → α → Prop} {d : Dialogue α} (h : Closed (P none) d) :
    Booked P d := by
  induction h with
  | done h => exact .done h
  | note hr _ ih => exact .note hr ih

theorem Closed.bind {P : α → Prop} {Q : β → Prop} {d : Dialogue α} {f : α → Dialogue β}
    (h : Closed P d) (hf : ∀ a, P a → Closed Q (f a)) : Closed Q (d.bind f) := by
  induction h with
  | done h => exact hf _ h
  | note hr _ ih => exact .note hr ih

theorem Booked.bind {P : Option Gain → α → Prop} {Q : Option Gain → β → Prop} {d : Dialogue α}
    {f : α → Dialogue β} (h : Booked P d) (hf : ∀ g a, P g a → Closed (Q g) (f a)) :
    Booked Q (d.bind f) := by
  induction h with
  | done h => exact (hf none _ h).booked
  | note hr _ ih => exact .note hr ih
  | ask _ hsome ih =>
    apply Booked.ask ih
    intro x g hg
    obtain ⟨r, d, hk, hr, hd⟩ := hsome x g hg
    exact ⟨r, d.bind f, by rw [hk]; rfl, hr, hd.bind (hf (some g))⟩

theorem Booked.look {P : Option Gain → α → Prop} {c : Call}
    {k : Except StoreError c.Answer → Dialogue α} (hc : c.mutates = false)
    (h : ∀ x, Booked P (k x)) : Booked P (.ask c k) := by
  apply Booked.ask fun x _ => h x
  intro x g hg
  cases c with
  | insert | deleteById => cases hc
  | _ => cases hg

end Dialogue

structure Outcome.Books (P : Option Gain → α → Prop) (w : World) (g : Option Gain)
    (o : Outcome α) : Prop where
  entries : entries (Event.records o.events) = Gain.entries g
  change : w.register.Gains g o.world.register
  tame : o.world.script.Tame
  result : o.result = none ∧ g = none ∨ ∃ x, o.result = some x ∧ P g x

theorem Outcome.Books.after_call {P : Option Gain → α → Prop} {w w' : World} {g : Option Gain}
    {o : Outcome α} (h : o.Books P w' g) (hw : w'.register = w.register) (c : Call) :
    (o.after (.call c)).Books P w g where
  entries := h.entries
  change := hw ▸ h.change
  tame := h.tame
  result := h.result

theorem Outcome.Books.unanswered {P : Option Gain → α → Prop} {w w' : World}
    (hw : w'.register = w.register) (htame : w'.script.Tame) :
    (⟨none, [], w'⟩ : Outcome α).Books P w none where
  entries := rfl
  change := ⟨.list, by rw [hw]; exact .unchanged⟩
  tame := htame
  result := .inl ⟨rfl, rfl⟩

theorem entries_after_record {e : Record} (o : Outcome α) :
    entries (Event.records (o.after (.record e)).events) =
      e.entry?.toList ++ entries (Event.records o.events) := by
  cases he : e.entry? <;> simp [Outcome.after, Event.records, entries, he]

namespace Dialogue

theorem Closed.within {P : Option Gain → α → Prop} {d : Dialogue α} {g : Option Gain}
    (h : Closed (P g) d) (limit : Option Nat) (now : Nat) (w : World) :
    entries (Event.records (d.within limit now w).events) = [] ∧
      (d.within limit now w).world = w ∧ ∃ x, (d.within limit now w).result = some x ∧ P g x := by
  induction h with
  | done h => exact ⟨rfl, rfl, _, rfl, h⟩
  | note hr _ ih =>
    rw [Dialogue.within, entries_after_record, hr]
    exact ih

theorem Booked.within_told {P : Option Gain → α → Prop} {c : Call}
    {k : Except StoreError c.Answer → Dialogue α} (h : Booked P (.ask c k)) {w : World}
    (hw : w.script.Tame) {g : Gain} (hg : c.gain? (Register.answer c w.register).1 = some g)
    (limit : Option Nat) (now : Nat) :
    ((k (w.settle c).1).within limit now (w.settle c).2).Books P w (some g) := by
  cases h with
  | ask _ hsome =>
    obtain ⟨r, d, hk, hr, hd⟩ := hsome _ g hg
    obtain ⟨hentries, hworld, hresult⟩ := hd.within (P := P) limit now (w.settle c).2
    change k (w.settle c).1 = _ at hk
    rw [hk, Dialogue.within]
    refine ⟨?_, ?_, ?_, .inr hresult⟩
    · rw [entries_after_record, hr, hentries]
      rfl
    · change w.register.Gains _ (d.within limit now (w.settle c).2).world.register
      rw [hworld, ← hg]
      exact Register.answer_gains c w.register
    · change (d.within limit now (w.settle c).2).world.script.Tame
      rw [hworld]
      exact hw

theorem Booked.within {P : Option Gain → α → Prop} {d : Dialogue α} (h : Booked P d)
    {limit : Option Nat} {now : Nat} {w : World} (hw : w.script.Tame)
    (hend : limit = none ∨ (d.within limit now w).result ≠ none) :
    ∃ g, (d.within limit now w).Books P w g := by
  induction h generalizing now w with
  | done h => exact ⟨none, rfl, ⟨.list, .unchanged⟩, hw, .inr ⟨_, rfl, h⟩⟩
  | note hr _ ih =>
    obtain ⟨g, hentries, hchange, htame, hresult⟩ := ih hw hend
    refine ⟨g, ?_, hchange, htame, hresult⟩
    rw [Dialogue.within, entries_after_record, hr]
    exact hentries
  | @ask c k hnone hsome ih =>
    have hregister := w.begin_register c
    have htame := World.begin_tame hw c
    have hanswered {x} := World.begin_answered (c := c) hw (x := x)
    rw [Dialogue.within] at hend ⊢
    generalize w.begin c = begun at hregister htame hanswered hend ⊢
    suffices ∃ g, Outcome.Books P w g _ from ⟨_, this.choose_spec.after_call rfl c⟩
    obtain ⟨course, w'⟩ := begun
    cases course with
    | never => exact ⟨none, .unanswered hregister htame⟩
    | answered x =>
      have hx := Call.gain?_of_tellsNoChange (hanswered rfl)
      obtain ⟨g, hg⟩ := ih x hx htame hend
      exact ⟨g, hg.entries, hregister ▸ hg.change, hg.tame, hg.result⟩
    | passed before after =>
      have hbefore : reached limit (now + before) = false := by
        rcases hend with rfl | hend
        · rfl
        · by_contra hr
          rw [Bool.not_eq_false] at hr
          simp [hr, Outcome.after] at hend
      have hafter : reached limit (now + before + after) = false := by
        rcases hend with rfl | hend
        · rfl
        · by_contra hr
          rw [Bool.not_eq_false] at hr
          simp [hbefore, hr, Outcome.after] at hend
      simp only [hbefore, hafter, Bool.false_eq_true, if_false] at hend ⊢
      cases hg : c.gain? (Register.answer c w'.register).1 with
      | none =>
        have hkept := Register.eq_of_gains_none (hg ▸ Register.answer_gains c w'.register)
        have htame' : (w'.settle c).2.script.Tame := htame
        obtain ⟨g, hrest⟩ := ih (w'.settle c).1 hg htame' hend
        refine ⟨g, hrest.entries, ?_, hrest.tame, hrest.result⟩
        rw [← hregister, ← hkept]
        exact hrest.change
      | some g =>
        have htold := (Booked.ask hnone hsome).within_told htame hg limit (now + before + after)
        exact ⟨some g, htold.entries, hregister ▸ htold.change, htold.tame, htold.result⟩

end Dialogue

namespace Service

inductive Registering (a : Application) : Option Gain → Except Refusal Card → Prop
  | registered (id : Int32) :
    Registering a (some (.registered (a.card id))) (.ok (a.card id))
  | refused (e : Refusal) : Registering a none (.error e)

inductive Removing (id : Int32) : Option Gain → Except Refusal Unit → Prop
  | removed : Removing id (some (.removed id)) (.ok ())
  | refused (e : Refusal) : Removing id none (.error e)

theorem refuse_booked {P : Option Gain → Except Refusal α → Prop} (e : StoreError)
    (h : P none (.error (.storeFailed e))) : (refuse e).Booked P :=
  .note rfl (.done h)

theorem list_booked : list.Booked fun g _ => g = none := by
  apply Dialogue.Booked.look rfl
  rintro (e | cards)
  · exact refuse_booked e rfl
  · exact .done rfl

theorem ping_booked : ping.Booked fun g _ => g = none := by
  apply Dialogue.Booked.look rfl
  rintro (e | u)
  · exact refuse_booked e rfl
  · exact .done rfl

theorem insert_booked (a : Application) : (insert a).Booked (Registering a) := by
  apply Dialogue.Booked.ask
  · rintro (e | id) h
    · cases e with
      | duplicate => exact .done (.refused _)
      | _ => exact refuse_booked _ (.refused _)
    · cases h
  · rintro (e | id) g h
    · cases h
    · cases h
      exact ⟨_, _, rfl, rfl, .done (.registered id)⟩

theorem register_booked (a : Application) : (register a).Booked (Registering a) := by
  rw [register]
  split
  · exact .done (.refused _)
  · apply Dialogue.Booked.look rfl
    rintro (e | _ | c)
    · exact refuse_booked e (.refused _)
    · exact insert_booked a
    · exact .done (.refused _)

theorem delete_booked (id : Int32) : (delete id).Booked (Removing id) := by
  apply Dialogue.Booked.ask
  · rintro (e | _ | _) h
    · exact refuse_booked e (.refused _)
    · exact .done (.refused _)
    · cases h
  · rintro (e | _ | _) g h
    · cases h
    · cases h
    · cases h
      exact ⟨_, _, rfl, rfl, .done .removed⟩

theorem remove_booked (id : Int32) : (remove id).Booked (Removing id) := by
  apply Dialogue.Booked.look rfl
  rintro (e | _ | c)
  · exact refuse_booked e (.refused _)
  · exact .done (.refused _)
  · exact delete_booked id

end Service

def Gain.isInsertion : Option Gain → Bool
  | some (.registered _) => true
  | _ => false

def Gain.issued (g : Option Gain) : Nat :=
  if isInsertion g then 1 else 0

/-- A log from which the cards of a register can be told, of which so many have been given out. -/
structure Audited (n : Nat) (log : List Record) (r : Register) : Prop where
  numbered : r.Numbered
  last : r.lastId.toInt = n
  listed : replay log = r.cards.map Card.listed

namespace Audited

variable {n : Nat} {log more : List Record} {r r' : Register}

theorem empty : Audited 0 [] .empty where
  numbered := .empty
  last := rfl
  listed := rfl

theorem register (h : Audited n log r) {a : Application} {id : Int32}
    (hins : r.insert a = (.ok id, r')) (hfew : n + 1 < 2 ^ 31)
    (hmore : entries more = [.added (a.card id).listed]) : Audited (n + 1) (log ++ more) r' := by
  have hf := (Register.insert_eq_ok hins).1
  have hfew' : r.lastId.toInt + 1 < 2 ^ 31 := by
    rw [h.last]
    exact_mod_cast hfew
  have hnumbered := h.numbered.insert hf hfew'
  have heq := h.numbered.insert_eq hf hfew'
  rw [hins] at hnumbered heq
  cases heq
  constructor
  case numbered => exact hnumbered
  case last =>
    rw [Register.toInt_succ hfew', h.last]
    rfl
  case listed =>
    rw [replay_append, hmore, h.listed]
    simp [Entry.post, Register.cards]

theorem remove (h : Audited n log r) {id : Int32} (hdel : r.deleteById id = (true, r'))
    (hmore : entries more = [.dropped (toString id.toInt)]) : Audited n (log ++ more) r' := by
  obtain rfl : (r.deleteById id).2 = r' := congrArg Prod.snd hdel
  constructor
  case numbered => exact h.numbered.deleteById id
  case last => exact h.last
  case listed =>
    rw [replay_append, hmore, h.listed, h.numbered.wellKept.deleteById_cards]
    exact listed_filter r.cards id

theorem gains (h : Audited n log r) {g : Option Gain} (hg : r.Gains g r')
    (hfew : n + Gain.issued g < 2 ^ 31) (hmore : entries more = Gain.entries g) :
    Audited (n + Gain.issued g) (log ++ more) r' := by
  obtain ⟨o, ho⟩ := hg
  cases ho with
  | unchanged =>
    refine ⟨h.numbered, h.last, ?_⟩
    rw [replay_append, hmore, ← h.listed]
    rfl
  | registered _ hins => exact h.register hins hfew hmore
  | removed _ hdel => exact h.remove hdel hmore

end Audited

def Errand.gain : Errand → Operation.Result → Option Gain
  | operation o, x => o.gain x
  | ping, _ => none

structure Report where
  errand : Errand
  outcome : Outcome Operation.Result

namespace Report

def gain (t : Report) : Option Gain :=
  t.outcome.result.bind t.errand.gain

def log (ts : List Report) : List Record :=
  ts.flatMap fun t => Event.records t.outcome.events

/-- What is booked is the change the caller is told of, and it is told of one by each registration
and removal that goes through. -/
structure Faithful (t : Report) : Prop where
  entries : entries (Event.records t.outcome.events) = Gain.entries t.gain
  gain_iff : t.gain ≠ none ↔
    ∃ o v, t.errand = .operation o ∧ o ≠ .list ∧ t.outcome.result = some (.ok v)

end Report

namespace Errand

def reports : List Errand → World → List Report
  | [], _ => []
  | e :: es, w => ⟨e, e.dialogue.within none 0 w⟩ :: reports es (e.dialogue.within none 0 w).world

def worldAfter (es : List Errand) (w : World) : World :=
  es.foldl (fun w e => (e.dialogue.within none 0 w).world) w

def Tells (e : Errand) (g : Option Gain) (x : Operation.Result) : Prop :=
  g = e.gain x ∧ (g ≠ none ↔ ∃ o v, e = .operation o ∧ o ≠ .list ∧ x = .ok v)

theorem dialogue_booked (e : Errand) : e.dialogue.Booked e.Tells := by
  rcases e with (_ | a | id) | _
  · apply Service.list_booked.bind
    rintro g x rfl
    refine .done ⟨?_, ?_⟩
    · cases x <;> rfl
    · simp
  · apply (Service.register_booked a).bind
    rintro g x (id | e)
    · exact .done ⟨rfl, by simp [Except.map]⟩
    · exact .done ⟨rfl, by simp [Except.map]⟩
  · apply (Service.remove_booked id).bind
    rintro g x (_ | e)
    · exact .done ⟨rfl, by simp [Except.map]⟩
    · exact .done ⟨rfl, by simp [Except.map]⟩
  · apply Service.ping_booked.bind
    rintro g x rfl
    exact .done ⟨rfl, by simp⟩

theorem faithful {e : Errand} {w : World} {g : Option Gain} {o : Outcome Operation.Result}
    (h : o.Books e.Tells w g) : g = Report.gain ⟨e, o⟩ ∧ Report.Faithful ⟨e, o⟩ := by
  obtain ⟨hnone, rfl⟩ | ⟨x, hx, hg, hiff⟩ := h.result
  · have hgain : Report.gain ⟨e, o⟩ = none := by
      rw [Report.gain, hnone]
      rfl
    refine ⟨hgain.symm, ?_, ?_⟩
    · rw [hgain]
      exact h.entries
    · simp [hgain, hnone]
  · have hgain : Report.gain ⟨e, o⟩ = g := by
      rw [Report.gain, hx, hg]
      rfl
    refine ⟨hgain.symm, ?_, ?_⟩
    · rw [hgain]
      exact h.entries
    · simpa [hgain, hx] using hiff

theorem reports_audited (es : List Errand) {n : Nat} {log : List Record} {w : World}
    (h : Audited n log w.register) (hw : w.script.Tame)
    (hfew : n + (reports es w).countP (fun t => Gain.isInsertion t.gain) < 2 ^ 31) :
    replay (log ++ Report.log (reports es w)) =
        (worldAfter es w).register.cards.map Card.listed ∧
      ∀ t ∈ reports es w, t.Faithful := by
  induction es generalizing n log w with
  | nil => exact ⟨by simpa [reports, Report.log, worldAfter] using h.listed, by simp [reports]⟩
  | cons e es ih =>
    obtain ⟨g, hbooks⟩ : ∃ g, (e.dialogue.within none 0 w).Books e.Tells w g :=
      e.dialogue_booked.within hw (.inl rfl)
    obtain ⟨rfl, hfaithful⟩ := faithful hbooks
    have hsplit : n + (reports (e :: es) w).countP (fun t => Gain.isInsertion t.gain) =
        n + Gain.issued (Report.gain ⟨e, e.dialogue.within none 0 w⟩) +
          (reports es (e.dialogue.within none 0 w).world).countP
            fun t => Gain.isInsertion t.gain := by
      rw [reports, List.countP_cons, Gain.issued]
      omega
    rw [hsplit] at hfew
    have hnext := h.gains hbooks.change (by omega) hbooks.entries
    obtain ⟨hreplay, hall⟩ := ih hnext hbooks.tame hfew
    rw [List.append_assoc] at hreplay
    exact ⟨hreplay, List.forall_mem_cons.mpr ⟨hfaithful, hall⟩⟩

end Errand

namespace Http

inductive Told : Option Confirmation → Option Gain → Prop
  | nothing : Told none none
  | registered (c : Card) :
    Told (some (.registered c.name c.department c.category)) (some (.registered c))
  | removed (id : Int32) : Told (some (.removed id)) (some (.removed id))

inductive Performing : Except Refusal Command → Option Gain → String → Prop
  | registered (a : Application) (id : Int32) :
    Performing (.ok (.register a)) (some (.registered (a.card id))) created
  | removed (id : Int32) : Performing (.ok (.remove id)) (some (.removed id)) removed
  | refused {command : Except Refusal Command} {m : String} (hn : m ≠ created) (hm : m ≠ removed) :
    Performing command none m

theorem perform_booked (command : Except Refusal Command) :
    (perform command).Booked (Performing command) := by
  have hrefused (e : Refusal) : Performing command none e.message :=
    .refused (e.message_ne (by decide)) (e.message_ne (by decide))
  rcases command with e | a | id | op
  · exact .done (hrefused e)
  · apply (Service.register_booked a).bind
    rintro g x (id | e)
    · exact .done (.registered a id)
    · exact .done (hrefused e)
  · apply (Service.remove_booked id).bind
    rintro g x (_ | e)
    · exact .done (.removed id)
    · exact .note rfl (.done (hrefused e))
  · exact .note rfl (.done (.refused (by decide) (by decide)))

theorem Performing.told {q : Request} {b : CardDesk.Request} (hq : q.submission? = some b)
    {g : Option Gain} {m : String} (h : Performing b.command g m) :
    Told (confirmed? q (.text .ok m)) g := by
  rw [confirmed?, hq]
  simp only [says_text_iff, ← Category.ofLabel?_eq]
  generalize hcommand : b.command = command at h
  cases h with
  | registered a id =>
    obtain ⟨hop, category, hcategory, rfl⟩ :=
      CardDesk.Request.command_eq_register_iff.mp hcommand
    rw [if_pos ⟨hop, rfl⟩, hcategory]
    exact .registered
      (Application.card (.trimmed (b.name.getD "") (b.department.getD "") category) id)
  | removed id =>
    obtain ⟨hop, hid⟩ := CardDesk.Request.command_eq_remove_iff.mp hcommand
    rw [if_neg (by rw [hop]; decide), if_pos ⟨hop, rfl⟩, hid]
    exact .removed id
  | refused hn hm =>
    rw [if_neg fun h => hn h.2, if_neg fun h => hm h.2]
    exact .nothing

theorem getReady_booked : getReady.Booked fun g _ => g = none := by
  apply Service.ping_booked.bind
  rintro g (e | u) rfl
  · exact .note rfl (.done rfl)
  · exact .done rfl

theorem answer_booked (q : Request) : (answer q).Booked fun g x => Told (confirmed? q x) g := by
  cases hq : q.submission? with
  | some b =>
    rw [answer_eq_of_submission hq]
    apply Dialogue.Booked.note rfl
    apply (perform_booked b.command).bind
    exact fun g m h => .done (h.told hq)
  | none =>
    have hnone (x : Response) : confirmed? q x = none := by rw [confirmed?, hq]
    have htold : (fun g x => Told (confirmed? q x) g) = fun g _ => g = none := by
      funext g x
      rw [hnone, eq_iff_iff]
      exact ⟨fun h => by cases h; rfl, fun h => h ▸ .nothing⟩
    rw [htold]
    apply answer_induction_on
    case hdone => exact fun x => .done rfl
    case hcards =>
      apply Service.list_booked.bind
      rintro g (e | cards) rfl
      · exact .done rfl
      · exact .done rfl
    case hready => exact getReady_booked
    case hhead => exact getReady_booked.bind fun g x h => .done h
    case hmalformed => exact fun c x => .note rfl (.done rfl)
    case hdecoded =>
      intro body b hm hp hbody hb
      rw [submission?_eq_some_iff.mpr ⟨hm, hp, body, hbody, hb⟩] at hq
      cases hq

theorem serve_books {seconds : UInt64} {q : Request} {w : World} (hw : w.script.Tame)
    (hintime : (serve seconds q w).response.status ≠ .requestTimeout) :
    ∃ g, Told (confirmed? q (serve seconds q w).response) g ∧
      entries (Event.records (serve seconds q w).events) = Gain.entries g ∧
      w.register.Gains g (serve seconds q w).world.register ∧
      (serve seconds q w).world.script.Tame := by
  rw [serve] at hintime ⊢
  dsimp only at hintime ⊢
  split at hintime
  · exact absurd rfl hintime
  · rename_i hlimit
    rw [if_neg hlimit]
    generalize hrun : (answer q).within (some (limitOf seconds)) 0 w = o at hintime ⊢
    have hend : o.result ≠ none := by
      intro hnone
      rw [hnone] at hintime
      exact hintime rfl
    obtain ⟨g, hbooks⟩ := (answer_booked q).within hw (.inr (hrun ▸ hend))
    rw [hrun] at hbooks
    obtain ⟨hnone, -⟩ | ⟨x, hx, htold⟩ := hbooks.result
    · exact absurd hnone hend
    · refine ⟨g, ?_, hbooks.entries, hbooks.change, hbooks.tame⟩
      rw [hx]
      exact htold

theorem Told.issued_note {q : Request} {x : Response} {g : Option Gain}
    (h : Told (confirmed? q x) g) (l : Ledger) :
    (l.note (q, x)).issued = l.issued + Gain.issued g := by
  rw [Ledger.note]
  generalize confirmed? q x = confirmation at h
  cases h <;> rfl

theorem exchanges_cons_eq (seconds : UInt64) (q : Request) (qs : List Request) (w : World) :
    exchanges seconds (q :: qs) w = (q, (serve seconds q w).response) ::
      exchanges seconds qs (serve seconds q w).world :=
  rfl

theorem serveAll_audited {seconds : UInt64} (qs : List Request) {l : Ledger} {log : List Record}
    {w : World} (h : Audited l.issued log w.register) (hw : w.script.Tame)
    (hintime : ∀ x ∈ serveAll seconds qs w, x.response.status ≠ .requestTimeout)
    (hfew : ((exchanges seconds qs w).foldl Ledger.note l).issued < 2 ^ 31) :
    replay (log ++ recorded (serveAll seconds qs w)) =
        (worldAfter seconds qs w).register.cards.map Card.listed ∧
      ∀ e ∈ qs.zip (serveAll seconds qs w), ∃ g, Told (confirmed? e.1 e.2.response) g ∧
        entries (Event.records e.2.events) = Gain.entries g := by
  induction qs generalizing l log w with
  | nil =>
    refine ⟨?_, by simp⟩
    simpa [serveAll, recorded, worldAfter] using h.listed
  | cons q qs ih =>
    rw [serveAll, List.forall_mem_cons] at hintime
    obtain ⟨g, htold, hentries, hgains, htame⟩ := serve_books hw hintime.1
    rw [exchanges_cons_eq, List.foldl_cons] at hfew
    have hissued := htold.issued_note l
    have hle := Ledger.issued_le_foldl (l.note (q, (serve seconds q w).response))
      (exchanges seconds qs (serve seconds q w).world)
    have hnext := h.gains hgains (by omega) hentries
    rw [← hissued] at hnext
    obtain ⟨hreplay, hall⟩ := ih hnext htame hintime.2 hfew
    rw [List.append_assoc] at hreplay
    exact ⟨hreplay, List.forall_mem_cons.mpr ⟨⟨g, htold, hentries⟩, hall⟩⟩

end Http

/-- From its records alone the log tells the cards in the register, whatever the store is made to
do, short of claiming removals that it has not made. It has one entry for each change that a caller
or a client is told of, and none besides. -/
theorem log_tells_cards {script : Script} (htame : script.Tame) :
    (∀ es, ((Errand.reports es (.fresh script)).countP fun t => Gain.isInsertion t.gain) <
        2 ^ 31 →
      replay (Report.log (Errand.reports es (.fresh script))) =
          (Errand.worldAfter es (.fresh script)).register.cards.map Card.listed ∧
        ∀ t ∈ Errand.reports es (.fresh script), t.Faithful) ∧
    ∀ seconds qs,
      (∀ x ∈ Http.serveAll seconds qs (.fresh script), x.response.status ≠ .requestTimeout) →
      (Http.ledger (Http.exchanges seconds qs (.fresh script))).issued < 2 ^ 31 →
      replay (Http.recorded (Http.serveAll seconds qs (.fresh script))) =
          (Http.worldAfter seconds qs (.fresh script)).register.cards.map Card.listed ∧
        ∀ e ∈ qs.zip (Http.serveAll seconds qs (.fresh script)),
          ∃ g, Http.Told (Http.confirmed? e.1 e.2.response) g ∧
            entries (Event.records e.2.events) = Gain.entries g := by
  constructor
  · intro es hfew
    have hempty : Audited 0 [] (World.fresh script).register := .empty
    exact Errand.reports_audited es hempty htame (by simpa using hfew)
  · intro seconds qs hintime hfew
    have hempty : Audited ({} : Http.Ledger).issued [] (World.fresh script).register := .empty
    exact Http.serveAll_audited qs hempty htame hintime hfew

theorem log_tells_cards_despite_failures :
    let script : Script := fun
      | .insert => [some (.fail .duplicate)]
      | .deleteById => [some .absent]
      | _ => []
    let register (name : String) : Errand := .operation (.register ⟨name, "CS", .student⟩)
    let remove : Errand := .operation (.remove 1)
    let es := [register "Alice", register "Alice", remove, register "Bob", remove]
    let new : Http.Request := ⟨"POST", "/card",
      ["[null,\"Alice\",\"CS\",\"T\",\"new\"]".toUTF8.toList], none⟩
    script.Tame ∧
      replay (Report.log (Errand.reports es (.fresh script))) = [⟨"2", "Bob", "S"⟩] ∧
      (Errand.worldAfter es (.fresh script)).register.cards.map Card.listed =
        [⟨"2", "Bob", "S"⟩] ∧
      replay (Http.recorded (Http.serveAll 30 [new, new] (.fresh script))) =
        [⟨"1", "Alice", "T"⟩] := by
  intro script register remove es new
  have htame : script.Tame := by simp [Script.Tame, script]
  have hbody : new.body = .ok new.pieces.flatten := by decide +kernel
  have hnew : Http.answer new = Http.postDecoded ⟨none, "Alice", "CS", "T", "new"⟩ :=
    Http.answer_eq_postDecoded rfl (by decide) hbody (by decide +kernel)
  have hcards : (Errand.worldAfter es (.fresh script)).register.cards.map Card.listed =
      [⟨"2", "Bob", "S"⟩] := by
    decide
  obtain ⟨hreports, hserved⟩ := log_tells_cards htame
  refine ⟨htame, ?_, hcards, ?_⟩
  · rw [← hcards]
    exact (hreports es (by decide)).1
  · have hsubmission : new.submission? = some ⟨none, "Alice", "CS", "T", "new"⟩ := by decide +kernel
    have hintime : ∀ x ∈ Http.serveAll 30 [new, new] (.fresh script),
        x.response.status ≠ .requestTimeout := by
      simp only [Http.serveAll, Http.serve, hnew]
      decide
    have hfew : (Http.ledger (Http.exchanges 30 [new, new] (.fresh script))).issued < 2 ^ 31 := by
      simp only [Http.exchanges, Http.serveAll, Http.serve, hnew, Http.ledger, List.map_cons,
        List.map_nil, List.zip_cons_cons, List.zip_nil_left, List.foldl_cons, List.foldl_nil,
        Http.Ledger.note, Http.confirmed?, hsubmission]
      decide
    rw [(hserved 30 [new, new] hintime hfew).1]
    simp only [Http.worldAfter, List.foldl_cons, List.foldl_nil, Http.serve, hnew]
    decide

end CardDesk
