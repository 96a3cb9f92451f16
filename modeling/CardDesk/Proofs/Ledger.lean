import CardDesk.Proofs.Session
import Mathlib.Data.List.Induction

namespace CardDesk

def Category.labels : Category → List String
  | teacher => ["教师", "T"]
  | student => ["学生", "S"]

def Category.labelled? (label : String) : Option Category :=
  if label ∈ labels teacher then some teacher
  else if label ∈ labels student then some student
  else none

theorem Category.ofLabel?_eq (label : String) : ofLabel? label = labelled? (Text.trim label) := by
  unfold ofLabel?
  split <;> simp_all [labelled?, labels]

theorem Category.ofLabel?_eq_some_iff {label : String} {c : Category} :
    ofLabel? label = some c ↔ Text.trim label ∈ c.labels := by
  unfold ofLabel?
  split <;> cases c <;> simp_all [labels]

namespace Http

def Request.submission? (q : Request) : Option CardDesk.Request :=
  if q.method = "POST" ∧ pathOf q.target = "/card" ∧ q.failure = none ∧
      q.pieces.flatten.length ≤ 2097152 then
    (CardDesk.Request.ofJson q.pieces.flatten).toOption
  else none

inductive Confirmation where
  | registered (name department : String) (category : Category)
  | removed (id : Int32)
  deriving DecidableEq, Repr

def Response.Says (x : Response) (text : String) : Prop :=
  x.status.code = 200 ∧ x.body = text

instance (x : Response) (text : String) : Decidable (x.Says text) :=
  inferInstanceAs (Decidable (_ ∧ _))

theorem says_text_iff {m text : String} : (Response.text .ok m).Says text ↔ m = text :=
  and_iff_right rfl

/-- What the sender of a request is told to have been done. -/
def confirmed? (q : Request) (x : Response) : Option Confirmation :=
  match q.submission? with
  | none => none
  | some b =>
    if b.op = "new" ∧ x.Says "Successfully created a card." then
      (Category.labelled? (Text.trim (b.label.getD ""))).map
        (.registered (Text.trim (b.name.getD "")) (Text.trim (b.department.getD "")))
    else if b.op = "remove" ∧ x.Says "Successfully removed the card." then b.id.map .removed
    else none

/-- How many cards have been given out, and those of them that have not been removed, in the order
in which they were. -/
structure Ledger where
  issued : Nat := 0
  live : List Card := []

def Ledger.note (l : Ledger) (e : Request × Response) : Ledger :=
  match confirmed? e.1 e.2 with
  | some (.registered name department category) =>
    ⟨l.issued + 1, l.live ++ [⟨Int32.ofNat (l.issued + 1), name, department, category⟩]⟩
  | some (.removed id) => { l with live := l.live.filter fun c => c.id ≠ id }
  | none => l

def ledger (h : List (Request × Response)) : Ledger :=
  h.foldl Ledger.note {}

theorem body_eq_ok_iff {q : Request} {bytes : Json.Bytes} :
    q.body = .ok bytes ↔
      q.failure = none ∧ q.pieces.flatten.length ≤ 2097152 ∧ q.pieces.flatten = bytes := by
  rw [Request.body, gather_eq, bodyLimit]
  split
  · simp only [reduceCtorEq, false_iff]
    rintro ⟨-, hle, -⟩
    omega
  · rename_i hle
    cases q.failure with
    | some text => simp
    | none => simp [-List.length_flatten, Nat.not_lt.mp hle]

theorem submission?_eq_some_iff {q : Request} {b : CardDesk.Request} :
    q.submission? = some b ↔ q.method = "POST" ∧ pathOf q.target = "/card" ∧
      ∃ bytes, q.body = .ok bytes ∧ CardDesk.Request.ofJson bytes = .ok b := by
  have hdecoded (x : Except Json.Complaint CardDesk.Request) :
      x.toOption = some b ↔ x = .ok b := by
    cases x <;> simp [Except.toOption]
  rw [Request.submission?]
  split
  · rename_i hq
    rw [hdecoded]
    constructor
    · intro h
      exact ⟨hq.1, hq.2.1, _, body_eq_ok_iff.mpr ⟨hq.2.2.1, hq.2.2.2, rfl⟩, h⟩
    · rintro ⟨-, -, bytes, hbody, h⟩
      obtain ⟨-, -, rfl⟩ := body_eq_ok_iff.mp hbody
      exact h
  · rename_i hq
    simp only [reduceCtorEq, false_iff]
    rintro ⟨hm, hp, bytes, hbody, -⟩
    obtain ⟨hf, hle, -⟩ := body_eq_ok_iff.mp hbody
    exact hq ⟨hm, hp, hf, hle⟩

theorem answer_eq_of_submission {q : Request} {b : CardDesk.Request}
    (h : q.submission? = some b) : answer q = postDecoded b := by
  obtain ⟨hm, hp, bytes, hbody, hb⟩ := submission?_eq_some_iff.mp h
  exact answer_eq_postDecoded hm hp hbody hb

theorem Ledger.issued_le_note (l : Ledger) (e : Request × Response) :
    l.issued ≤ (l.note e).issued := by
  rw [Ledger.note]
  split
  · exact Nat.le_succ _
  · exact Nat.le_refl _
  · exact Nat.le_refl _

theorem Ledger.issued_le_foldl (l : Ledger) (h : List (Request × Response)) :
    l.issued ≤ (h.foldl Ledger.note l).issued := by
  induction h generalizing l with
  | nil => exact Nat.le_refl _
  | cons e h ih => exact Nat.le_trans (l.issued_le_note e) (ih _)

theorem ledger_concat (h : List (Request × Response)) (e : Request × Response) :
    ledger (h ++ [e]) = (ledger h).note e := by
  rw [ledger, List.foldl_append]
  rfl

/-- The cards that have been given out and not been taken back since. -/
def Standing (h : List (Request × Response)) (c : Card) : Prop :=
  ∃ before e after, h = before ++ e :: after ∧
    confirmed? e.1 e.2 = some (.registered c.name c.department c.category) ∧
    c.id = Int32.ofNat ((ledger before).issued + 1) ∧
    ∀ e' ∈ after, confirmed? e'.1 e'.2 ≠ some (.removed c.id)

theorem standing_concat_iff {h : List (Request × Response)} {e : Request × Response} {c : Card} :
    Standing (h ++ [e]) c ↔
      (Standing h c ∧ confirmed? e.1 e.2 ≠ some (.removed c.id)) ∨
        (confirmed? e.1 e.2 = some (.registered c.name c.department c.category) ∧
          c.id = Int32.ofNat ((ledger h).issued + 1)) := by
  constructor
  · rintro ⟨before, e', after, hsplit, hreg, hid, hkept⟩
    obtain rfl | ⟨after, last, rfl⟩ := List.eq_nil_or_concat after
    · obtain ⟨rfl, he⟩ := List.append_inj' hsplit rfl
      cases he
      exact .inr ⟨hreg, hid⟩
    · rw [List.concat_eq_append, ← List.cons_append, ← List.append_assoc] at hsplit
      obtain ⟨rfl, he⟩ := List.append_inj' hsplit rfl
      cases he
      rw [List.concat_eq_append] at hkept
      refine .inl ⟨⟨before, e', after, rfl, hreg, hid, fun e' he' => ?_⟩, ?_⟩
      · exact hkept e' (List.mem_append_left _ he')
      · exact hkept e (by simp)
  · rintro (⟨⟨before, e', after, rfl, hreg, hid, hkept⟩, hlast⟩ | ⟨hreg, hid⟩)
    · refine ⟨before, e', after ++ [e], by simp, hreg, hid, fun e'' he => ?_⟩
      rcases List.mem_append.mp he with he | he
      · exact hkept e'' he
      · exact List.mem_singleton.mp he ▸ hlast
    · exact ⟨h, e, [], rfl, hreg, hid, by simp⟩

theorem mem_live_iff {h : List (Request × Response)} {c : Card} :
    c ∈ (ledger h).live ↔ Standing h c := by
  induction h using List.reverseRecOn with
  | nil =>
    simp [ledger, Standing]
  | append_singleton h e ih =>
    rw [ledger_concat, standing_concat_iff, ← ih, Ledger.note]
    cases confirmed? e.1 e.2 with
    | none => simp
    | some confirmation =>
      cases confirmation with
      | registered name department category =>
        simp only [List.mem_append, List.mem_singleton, Option.some.injEq, reduceCtorEq, ne_eq,
          not_false_eq_true, and_true, Confirmation.registered.injEq]
        constructor
        · rintro (hc | rfl)
          · exact .inl hc
          · exact .inr ⟨⟨rfl, rfl, rfl⟩, rfl⟩
        · rintro (hc | ⟨⟨rfl, rfl, rfl⟩, hid⟩)
          · exact .inl hc
          · exact .inr (by rw [← hid])
      | removed id =>
        simp [@eq_comm _ id]

end Http

end CardDesk
