import CardDesk.Proofs.Blanks
import CardDesk.Proofs.Outcomes
import CardDesk.Sql.Migration

namespace CardDesk.Sql

structure Limits where
  length : Nat
  codes : List String

namespace Limits

def script (l : Limits) : String :=
  let text := "VARCHAR(" ++ toString l.length ++ ") NOT NULL, "
  let codes := ", ".intercalate (l.codes.map fun code => "'" ++ code ++ "'")
  "CREATE TABLE IF NOT EXISTS card ( card_id SERIAL PRIMARY KEY, name " ++ text ++
    "department " ++ text ++ "card_type CHAR(1) NOT NULL CHECK (card_type IN (" ++ codes ++
    ")), UNIQUE (name, department, card_type) );"

structure Admits (l : Limits) (a : Application) : Prop where
  name : a.name.length ≤ l.length
  department : a.department.length ≤ l.length
  code : a.category.code ∈ l.codes

instance (l : Limits) (a : Application) : Decidable (l.Admits a) :=
  decidable_of_iff (a.name.length ≤ l.length ∧ a.department.length ≤ l.length ∧
    a.category.code ∈ l.codes) ⟨fun ⟨h, h', h''⟩ => ⟨h, h', h''⟩, fun ⟨h, h', h''⟩ => ⟨h, h', h''⟩⟩

def card : Limits :=
  ⟨63, ["T", "S"]⟩

theorem script_card : card.script = createCard.script := by
  decide +kernel

theorem card_admits_iff (a : Application) :
    card.Admits a ↔ a.name.length ≤ 63 ∧ a.department.length ≤ 63 := by
  have hcode : a.category.code ∈ card.codes := by cases a.category <;> decide
  exact ⟨fun h => ⟨h.name, h.department⟩, fun ⟨hname, hdepartment⟩ => ⟨hname, hdepartment, hcode⟩⟩

end Limits

/-- What is sent and told for an application, as far as its texts matter: they must not be blank,
and that is all. -/
structure OnlyBlanksRefused (a : Application) (t : List Exchange) (x : Operation.Result) :
    Prop where
  invalid_iff : (∃ fields, x = .error (.emptyFields fields)) ↔ a.Blank
  unsent : a.Blank → t = []
  inserted : ∀ name department code, .insert name department code ∈ t.map Exchange.statement →
    name = a.name ∧ department = a.department ∧ code = a.category.code ∧ ¬a.Blank
  inserted_iff : insertionOf a ∈ t.map Exchange.statement ↔
    ∃ reply, ⟨selectionOf a, reply⟩ ∈ t ∧ reply.Rowless
  reported : ∀ e, ⟨insertionOf a, .refused e⟩ ∈ t → e.code ≠ "23505" →
    x = .error (.storeFailed (.database (.server e)))

theorem OnlyBlanksRefused.of_blank {a : Application} {fields : List Application.Field}
    (h : a.Blank) : OnlyBlanksRefused a [] (.error (.emptyFields fields)) := by
  constructor <;> simp [h]

theorem OnlyBlanksRefused.of_settled {a : Application} {t : List Exchange} {x : Operation.Result}
    (hblank : ¬a.Blank) (h : ApplicationSettled a t x) (hfailures : FailuresReported t x) :
    OnlyBlanksRefused a t x where
  invalid_iff := by
    refine iff_of_false ?_ hblank
    rintro ⟨fields, rfl⟩
    obtain ⟨c, hc⟩ | hc | ⟨e, hc⟩ := h.nothing_else <;> cases hc
  unsent hb := absurd hb hblank
  inserted name department code hmem := by
    have hone : Statement.insert name department code = insertionOf a := by
      rcases h.statements with hs | hs
      · simp [hs, selectionOf] at hmem
      · simpa [hs, selectionOf] using hmem
    cases hone
    exact ⟨rfl, rfl, rfl, hblank⟩
  inserted_iff := h.inserted_iff
  reported e hmem hcode := hfailures.cause _ e hmem hcode

/-- For applications in normal form, over a database that replies anything: what is inserted is what
has been applied for, and the table can hold it just as far as the texts are not too long, of which
nothing is known before the database refuses it. -/
theorem insertions_of_any_length {σ : Type} (peer : Peer σ) (database : σ) (es : List Errand)
    {t : Turn} (ht : t ∈ turns peer es ⟨database, false⟩) {name department : String}
    {category : Category}
    (he : t.errand = .operation (.register (.trimmed name department category))) :
    OnlyBlanksRefused (.trimmed name department category) t.exchanges t.result ∧
      ((Application.trimmed name department category).Blank ↔
        Application.Blank ⟨name, department, category⟩) ∧
      (Limits.card.Admits (.trimmed name department category) ↔
        (Text.trim name).length ≤ 63 ∧ (Text.trim department).length ≤ 63) ∧
      Limits.card.script = createCard.script := by
  refine ⟨?_, Application.blank_trimmed_iff .., Limits.card_admits_iff _, Limits.script_card⟩
  have hblank := (Application.trimmed_trimmed name department category).blank_iff
  obtain ⟨hfailures, hsettled⟩ := settled_of_mem ht
  rw [he] at hsettled
  obtain ⟨hfilled, hempty⟩ := hsettled
  by_cases hb : (Application.trimmed name department category).Blank
  · obtain ⟨hunsent, fields, hresult⟩ := hempty (hblank.mp hb)
    rw [hunsent, hresult]
    exact .of_blank hb
  · exact .of_settled hb (hfilled (not_or.mp (hblank.not.mp hb))) hfailures

theorem insertions_of_any_length_of_one_card :
    let peer : Peer Unit := fun _ _ => (.affected 0, ())
    let e := Errand.operation (.register (.trimmed " Alice\u3000" "CS" .teacher))
    let t := (turn peer e ⟨(), false⟩).1
    t ∈ turns peer [e] ⟨(), false⟩ ∧ t.errand = e ∧
      OnlyBlanksRefused (.trimmed " Alice\u3000" "CS" .teacher) t.exchanges t.result := by
  intro peer e t
  have ht : t ∈ turns peer [e] ⟨(), false⟩ := List.mem_cons_self
  have he : t.errand = e := rfl
  exact ⟨ht, he, (insertions_of_any_length peer () [e] ht he).1⟩

theorem overlong_name_sent :
    let name := String.ofList (List.replicate 64 'x')
    let a : Application := .trimmed name "CS" .teacher
    let refusal : ServerError := ⟨"22001", "value too long for type character varying(63)"⟩
    let peer : Peer Unit := fun s _ =>
      (match s with
        | .insert .. => .refused refusal
        | _ => .affected 0, ())
    let t := (turn peer (.operation (.register a)) ⟨(), false⟩).1
    ¬Limits.card.Admits a ∧
      t.exchanges.map Exchange.statement =
        [.selectByIdentity name "CS" "T", .insert name "CS" "T"] ∧
      t.result = .error (.storeFailed (.database (.server refusal))) := by
  decide +kernel

end CardDesk.Sql
