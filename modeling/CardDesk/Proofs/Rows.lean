import CardDesk.Proofs.Passes
import CardDesk.Sql.Store
import CardDesk.Sql.Table
import Mathlib.Data.List.Nodup

/-!
Rows of a reply read as cards: all of them or none. Columns are told by their names, so that neither
their order nor further columns matter; of several faults the one that counts is the first in the
first row that cannot be read, and a row of an unknown category counts only if all can be read.
-/

namespace CardDesk

theorem Category.ofCode?_eq_some_iff {text : String} {c : Category} :
    ofCode? text = some c ↔
      Text.trim text = "T" ∧ c = .teacher ∨ Text.trim text = "S" ∧ c = .student := by
  unfold ofCode?
  split <;> cases c <;> simp_all

theorem Category.ofCode?_eq_none_iff {text : String} :
    ofCode? text = none ↔ Text.trim text ≠ "T" ∧ Text.trim text ≠ "S" := by
  unfold ofCode?
  split <;> simp_all

def ColumnKind.types : ColumnKind → List SqlType
  | integer => [.int4]
  | text => [.text, .varchar, .bpchar]

namespace Sql

def cardFields : List (String × ColumnKind) :=
  [("card_id", .integer), ("name", .text), ("department", .text), ("card_type", .text)]

def cellOf : (kind : ColumnKind) → kind.Value → Cell
  | .integer, n => .integer n.toInt
  | .text, s => .text s

def Holds (entries : List Entry) (f : String × ColumnKind) (value : f.2.Value) : Prop :=
  ∃ type ∈ f.2.types, (⟨f.1, type⟩, cellOf f.2 value) ∈ entries

/-- Why nothing can be read under a name. -/
inductive Faulty (entries : List Entry) (f : String × ColumnKind) : DatabaseError → Prop
  | missing (h : ∀ e ∈ entries, e.1.name ≠ f.1) : Faulty entries f (.columnNotFound f.1)
  | null {type : SqlType} (h : (⟨f.1, type⟩, .null) ∈ entries) :
    Faulty entries f (.columnUnreadable (.named f.1) .unexpectedNull)
  | mismatched {type : SqlType} {cell : Cell} (h : (⟨f.1, type⟩, cell) ∈ entries)
    (hcell : cell ≠ .null) (htype : type ∉ f.2.types) :
    Faulty entries f (.columnUnreadable (.named f.1) (.mismatchedType f.2 type))

def Readable (entries : List Entry) : Prop :=
  ∀ f ∈ cardFields, ∃ value, Holds entries f value

def Unreadable (entries : List Entry) (e : DatabaseError) : Prop :=
  ∃ f, Behind (fun g => ∃ value, Holds entries g value) cardFields f ∧ Faulty entries f e

/-- The card that a row is. -/
structure SaysCard (entries : List Entry) (c : Card) : Prop where
  id : (⟨"card_id", .int4⟩, .integer c.id.toInt) ∈ entries
  name : ∃ type ∈ ColumnKind.text.types, (⟨"name", type⟩, .text c.name) ∈ entries
  department : ∃ type ∈ ColumnKind.text.types, (⟨"department", type⟩, .text c.department) ∈ entries
  category : ∃ type ∈ ColumnKind.text.types, ∃ code, (⟨"card_type", type⟩, .text code) ∈ entries ∧
    (Text.trim code = "T" ∧ c.category = .teacher ∨ Text.trim code = "S" ∧ c.category = .student)

/-- What is said about a row that can be read but is of no known category. -/
def Miscoded (entries : List Entry) (text : String) : Prop :=
  ∃ id : Int32, (⟨"card_id", .int4⟩, .integer id.toInt) ∈ entries ∧
    ∃ type ∈ ColumnKind.text.types, ∃ code, (⟨"card_type", type⟩, .text code) ∈ entries ∧
      Text.trim code ≠ "T" ∧ Text.trim code ≠ "S" ∧
      text = "card " ++ toString id.toInt ++ " has unknown type code " ++ Text.quoted code

/-- Entries as they stand in a row, with no name twice. -/
structure Proper (entries : List Entry) : Prop where
  names : (entries.map fun e => e.1.name).Nodup
  admitted : ∀ e ∈ entries, e.1.admits e.2 = true

theorem zip_names_nodup {columns : List Column} (h : (columns.map Column.name).Nodup)
    (cells : List Cell) : ((columns.zip cells).map fun e => e.1.name).Nodup := by
  induction columns generalizing cells with
  | nil => simp
  | cons c columns ih =>
    cases cells with
    | nil => simp
    | cons cell cells =>
      obtain ⟨hc, hcolumns⟩ := List.nodup_cons.mp h
      refine List.nodup_cons.mpr ⟨?_, ih hcolumns cells⟩
      intro hmem
      obtain ⟨e, he, hname⟩ := List.mem_map.mp hmem
      exact hc (List.mem_map.mpr ⟨e.1, (List.of_mem_zip he).1, hname⟩)

theorem Row.proper {columns : List Column} (h : (columns.map Column.name).Nodup)
    (row : Row columns) : Proper row.entries :=
  ⟨zip_names_nodup h row.cells, fun _ => admits_of_mem⟩

theorem readAs?_eq_some_iff {kind : ColumnKind} {e : Entry} (h : e.1.admits e.2 = true)
    {value : kind.Value} :
    readAs? kind e = some value ↔ e.1.type ∈ kind.types ∧ e.2 = cellOf kind value := by
  obtain ⟨⟨name, type⟩, cell⟩ := e
  cases kind with
  | text =>
    cases type <;> cases cell <;>
      simp_all [readAs?, Column.admits, ColumnKind.types, cellOf]
  | integer =>
    cases type <;> cases cell <;>
      simp_all [readAs?, Column.admits, ColumnKind.types, cellOf]
    rename_i n
    constructor
    · rintro rfl
      simpa using h.symm
    · rintro rfl
      exact Int32.ofInt_toInt value

theorem readAs?_eq_none_iff {kind : ColumnKind} {e : Entry} (h : e.1.admits e.2 = true)
    (hcell : e.2 ≠ .null) : readAs? kind e = none ↔ e.1.type ∉ kind.types := by
  obtain ⟨⟨name, type⟩, cell⟩ := e
  cases kind <;> cases type <;> cases cell <;>
    simp_all [readAs?, Column.admits, ColumnKind.types]

section Entries

variable {entries : List Entry}

theorem cellNamed?_eq_some_iff (h : Proper entries) {name : String} {e : Entry} :
    cellNamed? entries name = some e ↔ e ∈ entries ∧ e.1.name = name := by
  rw [cellNamed?]
  constructor
  · intro he
    exact ⟨List.mem_reverse.mp (List.mem_of_find?_eq_some he), by simpa using List.find?_some he⟩
  · rintro ⟨he, rfl⟩
    obtain ⟨e', he'⟩ := Option.isSome_iff_exists.mp
      (List.find?_isSome (p := fun e' => decide (e'.1.name = e.1.name)).mpr
        ⟨e, List.mem_reverse.mpr he, by simp⟩)
    have hmem := List.mem_reverse.mp (List.mem_of_find?_eq_some he')
    have hname : e'.1.name = e.1.name := by simpa using List.find?_some he'
    rw [he', List.inj_on_of_nodup_map h.names hmem he hname]

theorem cellNamed?_eq_none_iff {name : String} :
    cellNamed? entries name = none ↔ ∀ e ∈ entries, e.1.name ≠ name := by
  simp [cellNamed?]

theorem cellOf_ne_null (kind : ColumnKind) (value : kind.Value) : cellOf kind value ≠ .null := by
  cases kind <;> nofun

theorem readCell_eq_ok_iff {kind : ColumnKind} {ref : ColumnRef} {e : Entry}
    (h : e.1.admits e.2 = true) {value : kind.Value} :
    readCell kind ref e = .ok value ↔ e.1.type ∈ kind.types ∧ e.2 = cellOf kind value := by
  rw [← readAs?_eq_some_iff h, readCell]
  split
  · rename_i hnull
    refine iff_of_false nofun fun hread => ?_
    exact cellOf_ne_null kind value (((readAs?_eq_some_iff h).mp hread).2.symm.trans hnull)
  · cases readAs? kind e <;> simp

theorem readCell_eq_error_iff {kind : ColumnKind} {ref : ColumnRef} {e : Entry}
    (h : e.1.admits e.2 = true) {err : DatabaseError} :
    readCell kind ref e = .error err ↔
      e.2 = .null ∧ err = .columnUnreadable ref .unexpectedNull ∨
        (e.2 ≠ .null ∧ e.1.type ∉ kind.types) ∧
          err = .columnUnreadable ref (.mismatchedType kind e.1.type) := by
  rw [readCell]
  by_cases hnull : e.2 = .null
  · simp [hnull, eq_comm]
  · rw [if_neg hnull, ← readAs?_eq_none_iff h hnull]
    cases readAs? kind e <;> simp [hnull, eq_comm]

theorem readNamed_eq_ok_iff (h : Proper entries) {f : String × ColumnKind} {value : f.2.Value} :
    readNamed f.2 entries f.1 = .ok value ↔ Holds entries f value := by
  constructor
  · intro hread
    rw [readNamed] at hread
    split at hread
    · cases hread
    rename_i e he
    obtain ⟨hmem, hname⟩ := (cellNamed?_eq_some_iff h).mp he
    obtain ⟨htype, hcell⟩ := (readCell_eq_ok_iff (h.admitted e hmem)).mp hread
    refine ⟨e.1.type, htype, ?_⟩
    rw [← hname, ← hcell]
    exact hmem
  · rintro ⟨type, htype, hmem⟩
    rw [readNamed, (cellNamed?_eq_some_iff h).mpr ⟨hmem, rfl⟩]
    exact (readCell_eq_ok_iff (h.admitted _ hmem)).mpr ⟨htype, rfl⟩

theorem readNamed_eq_error_iff (h : Proper entries) {f : String × ColumnKind}
    {err : DatabaseError} :
    readNamed f.2 entries f.1 = .error err ↔ Faulty entries f err := by
  constructor
  · intro hread
    rw [readNamed] at hread
    split at hread
    · rename_i hnone
      cases hread
      exact .missing (cellNamed?_eq_none_iff.mp hnone)
    rename_i e he
    obtain ⟨⟨name, type⟩, cell⟩ := e
    obtain ⟨hmem, rfl⟩ := (cellNamed?_eq_some_iff h).mp he
    rcases (readCell_eq_error_iff (h.admitted _ hmem)).mp hread with
      ⟨rfl, rfl⟩ | ⟨⟨hcell, htype⟩, rfl⟩
    · exact .null hmem
    · exact .mismatched hmem hcell htype
  · intro hfaulty
    rw [readNamed]
    cases hfaulty with
    | missing hmissing => rw [cellNamed?_eq_none_iff.mpr hmissing]
    | null hmem =>
      rw [(cellNamed?_eq_some_iff h).mpr ⟨hmem, rfl⟩]
      exact (readCell_eq_error_iff (h.admitted _ hmem)).mpr (.inl ⟨rfl, rfl⟩)
    | mismatched hmem hcell htype =>
      rw [(cellNamed?_eq_some_iff h).mpr ⟨hmem, rfl⟩]
      exact (readCell_eq_error_iff (h.admitted _ hmem)).mpr (.inr ⟨⟨hcell, htype⟩, rfl⟩)

structure Says (entries : List Entry) (r : CardRow) : Prop where
  id : Holds entries ("card_id", .integer) r.id
  name : Holds entries ("name", .text) r.name
  department : Holds entries ("department", .text) r.department
  code : Holds entries ("card_type", .text) r.code

theorem readRow_eq_ok_iff (h : Proper entries) {r : CardRow} :
    readRow entries = .ok r ↔ Says entries r := by
  have hid := @readNamed_eq_ok_iff entries h ("card_id", .integer)
  have hname := @readNamed_eq_ok_iff entries h ("name", .text)
  have hdepartment := @readNamed_eq_ok_iff entries h ("department", .text)
  have hcode := @readNamed_eq_ok_iff entries h ("card_type", .text)
  constructor
  · intro hread
    obtain ⟨id, hid', hread⟩ := bind_eq_ok_iff.mp hread
    obtain ⟨name, hname', hread⟩ := bind_eq_ok_iff.mp hread
    obtain ⟨department, hdepartment', hread⟩ := bind_eq_ok_iff.mp hread
    obtain ⟨code, hcode', hread⟩ := bind_eq_ok_iff.mp hread
    cases hread
    exact ⟨hid.mp hid', hname.mp hname', hdepartment.mp hdepartment', hcode.mp hcode'⟩
  · rintro ⟨hid', hname', hdepartment', hcode'⟩
    refine bind_eq_ok_iff.mpr ⟨r.id, hid.mpr hid', ?_⟩
    refine bind_eq_ok_iff.mpr ⟨r.name, hname.mpr hname', ?_⟩
    refine bind_eq_ok_iff.mpr ⟨r.department, hdepartment.mpr hdepartment', ?_⟩
    exact bind_eq_ok_iff.mpr ⟨r.code, hcode.mpr hcode', rfl⟩

theorem readRow_eq_error_iff (h : Proper entries) {e : DatabaseError} :
    readRow entries = .error e ↔ Unreadable entries e := by
  have hfields : readRow entries = .error e ↔
      (cardFields.mapM fun f => (readNamed f.2 entries f.1).map fun _ => ()) = .error e := by
    simp only [readRow, cardFields, List.mapM_cons, List.mapM_nil]
    cases readNamed .integer entries "card_id" <;>
      cases readNamed .text entries "name" <;>
      cases readNamed .text entries "department" <;>
      cases readNamed .text entries "card_type" <;>
      simp [bind, Except.bind, pure, Except.pure, Except.map]
  rw [hfields, mapM_eq_error_iff]
  simp only [map_eq_ok_iff, map_eq_error_iff, readNamed_eq_ok_iff h, readNamed_eq_error_iff h,
    and_true, exists_const]
  rfl

theorem readable_iff (h : Proper entries) : Readable entries ↔ ∃ r, readRow entries = .ok r := by
  simp only [readRow_eq_ok_iff h]
  constructor
  · intro hrow
    obtain ⟨id, hid⟩ := hrow ("card_id", .integer) (by simp [cardFields])
    obtain ⟨name, hname⟩ := hrow ("name", .text) (by simp [cardFields])
    obtain ⟨department, hdepartment⟩ := hrow ("department", .text) (by simp [cardFields])
    obtain ⟨code, hcode⟩ := hrow ("card_type", .text) (by simp [cardFields])
    exact ⟨⟨id, name, department, code⟩, hid, hname, hdepartment, hcode⟩
  · rintro ⟨r, hid, hname, hdepartment, hcode⟩
    simp only [Readable, cardFields, List.forall_mem_cons]
    exact ⟨⟨_, hid⟩, ⟨_, hname⟩, ⟨_, hdepartment⟩, ⟨_, hcode⟩, by simp⟩

theorem CardRow.card_eq_ok_iff {r : CardRow} {c : Card} :
    r.card = .ok c ↔ (c.id = r.id ∧ c.name = r.name ∧ c.department = r.department) ∧
      (Text.trim r.code = "T" ∧ c.category = .teacher ∨
        Text.trim r.code = "S" ∧ c.category = .student) := by
  rw [← Category.ofCode?_eq_some_iff, card]
  obtain ⟨id, name, department, category⟩ := c
  cases Category.ofCode? r.code <;> simp [eq_comm, and_assoc]

theorem CardRow.card_eq_error_iff {r : CardRow} {e : StoreError} :
    r.card = .error e ↔ (Text.trim r.code ≠ "T" ∧ Text.trim r.code ≠ "S") ∧
      e = .corrupt ("card " ++ toString r.id.toInt ++ " has unknown type code " ++
        Text.quoted r.code) := by
  rw [← Category.ofCode?_eq_none_iff, card]
  cases Category.ofCode? r.code <;> simp [eq_comm]

theorem holds_id_iff {name : String} {id : Int32} :
    Holds entries (name, .integer) id ↔ (⟨name, .int4⟩, .integer id.toInt) ∈ entries := by
  simp [Holds, ColumnKind.types, cellOf]

theorem saysCard_iff {c : Card} :
    SaysCard entries c ↔ ∃ r, Says entries r ∧ r.card = .ok c := by
  simp only [CardRow.card_eq_ok_iff]
  constructor
  · rintro ⟨hid, hname, hdepartment, type, htype, code, hcode, hcategory⟩
    exact ⟨⟨c.id, c.name, c.department, code⟩,
      ⟨holds_id_iff.mpr hid, hname, hdepartment, type, htype, hcode⟩, ⟨rfl, rfl, rfl⟩, hcategory⟩
  · rintro ⟨r, ⟨hid, hname, hdepartment, type, htype, hcode⟩, ⟨rid, rname, rdepartment⟩, hcategory⟩
    rw [← rid] at hid
    rw [← rname] at hname
    rw [← rdepartment] at hdepartment
    exact ⟨holds_id_iff.mp hid, hname, hdepartment, type, htype, r.code, hcode, hcategory⟩

theorem Holds.unique (h : Proper entries) {f : String × ColumnKind} {value value' : f.2.Value}
    (hvalue : Holds entries f value) (hvalue' : Holds entries f value') : value = value' := by
  rw [← readNamed_eq_ok_iff h] at hvalue hvalue'
  rw [hvalue] at hvalue'
  exact Except.ok.inj hvalue'

def readOne (entries : List Entry) : Except StoreError Card :=
  match readRow entries with
  | .error e => .error (.database e)
  | .ok r => r.card

theorem readOne_eq_ok_iff (h : Proper entries) {c : Card} :
    readOne entries = .ok c ↔ SaysCard entries c := by
  rw [saysCard_iff, readOne]
  simp only [← readRow_eq_ok_iff h]
  cases readRow entries <;> simp

theorem readOne_eq_error_iff (h : Proper entries) (hrow : Readable entries) {e : StoreError} :
    readOne entries = .error e ↔ ∃ text, e = .corrupt text ∧ Miscoded entries text := by
  obtain ⟨r, hr⟩ := (readable_iff h).mp hrow
  obtain ⟨hid, -, -, type, htype, hcode⟩ := (readRow_eq_ok_iff h).mp hr
  rw [readOne, hr]
  dsimp only
  rw [CardRow.card_eq_error_iff]
  constructor
  · rintro ⟨⟨hteacher, hstudent⟩, rfl⟩
    exact ⟨_, rfl, r.id, holds_id_iff.mp hid, type, htype, r.code, hcode, hteacher, hstudent, rfl⟩
  · rintro ⟨text, rfl, id, hid', type', htype', code, hcode', hteacher, hstudent, rfl⟩
    obtain rfl := Holds.unique h hid (holds_id_iff.mpr hid')
    have hsame : r.code = code := Holds.unique h (f := ("card_type", .text)) ⟨type, htype, hcode⟩
      ⟨type', htype', hcode'⟩
    rw [hsame]
    exact ⟨⟨hteacher, hstudent⟩, rfl⟩

end Entries

section Columns

variable {columns : List Column} {rows : List (Row columns)}

theorem readCards_of_ok (hrows : ∀ row ∈ rows, ∃ r, readRow row.entries = .ok r) :
    readCards rows = rows.mapM fun row => readOne row.entries := by
  obtain ⟨rs, hrs⟩ := exists_mapM_eq_ok_iff.mpr hrows
  have hone : List.Forall₂ (fun row r => readOne row.entries = CardRow.card r) rows rs :=
    (mapM_eq_ok_iff.mp hrs).imp fun row r hr => by rw [readOne, hr]
  rw [readCards, hrs, mapM_eq_of_forall₂ hone]

theorem readCards_of_not_ok (hrows : ¬∀ row ∈ rows, ∃ r, readRow row.entries = .ok r) :
    ∃ e, (rows.mapM fun row => readRow row.entries) = .error e ∧
      readCards rows = .error (.database e) := by
  cases hread : rows.mapM fun row => readRow row.entries with
  | error e => exact ⟨e, rfl, by rw [readCards, hread]⟩
  | ok rs => exact absurd (exists_mapM_eq_ok_iff.mp ⟨rs, hread⟩) hrows

theorem readCards_eq_ok_iff_readOne {cards : List Card} :
    readCards rows = .ok cards ↔
      List.Forall₂ (fun row c => readOne row.entries = .ok c) rows cards := by
  by_cases hrows : ∀ row ∈ rows, ∃ r, readRow row.entries = .ok r
  · rw [readCards_of_ok hrows, mapM_eq_ok_iff]
  · obtain ⟨e, -, he⟩ := readCards_of_not_ok hrows
    rw [he]
    refine iff_of_false nofun fun hcards => hrows ?_
    have hread : List.Forall₂ (fun row (_ : Card) => ∃ r, readRow row.entries = .ok r)
        rows cards := by
      apply hcards.imp
      intro row c hc
      rw [readOne] at hc
      split at hc
      · cases hc
      · exact ⟨_, by assumption⟩
    exact ((List.forall₂_and_left _ _).mp (hread.imp fun row c hr => ⟨hr, hr⟩)).1

theorem readCards_ne_duplicate : readCards rows ≠ .error .duplicate := by
  intro h
  rw [readCards] at h
  split at h
  · cases h
  · obtain ⟨r, -, hr⟩ := mapM_eq_error_iff.mp h
    cases (CardRow.card_eq_error_iff.mp hr).2

variable (h : (columns.map Column.name).Nodup)

include h

theorem readCards_eq_ok_iff {cards : List Card} :
    readCards rows = .ok cards ↔ List.Forall₂ (fun row c => SaysCard row.entries c) rows cards := by
  simp only [readCards_eq_ok_iff_readOne, readOne_eq_ok_iff (Row.proper h _)]

theorem readCards_eq_database_iff {e : DatabaseError} :
    readCards rows = .error (.database e) ↔
      ∃ row, Behind (fun r => Readable r.entries) rows row ∧ Unreadable row.entries e := by
  have hpass : (rows.mapM fun row => readRow row.entries) = .error e ↔
      ∃ row, Behind (fun r => Readable r.entries) rows row ∧ Unreadable row.entries e := by
    simp only [mapM_eq_error_iff, ← readable_iff (Row.proper h _),
      readRow_eq_error_iff (Row.proper h _)]
  rw [← hpass]
  by_cases hrows : ∀ row ∈ rows, ∃ r, readRow row.entries = .ok r
  · obtain ⟨rs, hrs⟩ := exists_mapM_eq_ok_iff.mpr hrows
    rw [readCards, hrs]
    refine iff_of_false (fun hcards => ?_) nofun
    obtain ⟨r, -, hr⟩ := mapM_eq_error_iff.mp hcards
    cases (CardRow.card_eq_error_iff.mp hr).2
  · obtain ⟨e', he', hcards⟩ := readCards_of_not_ok hrows
    rw [he', hcards]
    simp

theorem readCards_eq_corrupt_iff {text : String} :
    readCards rows = .error (.corrupt text) ↔ (∀ row ∈ rows, Readable row.entries) ∧
      ∃ row, Behind (fun r => ∃ c, SaysCard r.entries c) rows row ∧ Miscoded row.entries text := by
  by_cases hrows : ∀ row ∈ rows, Readable row.entries
  · rw [readCards_of_ok fun row hrow => (readable_iff (row.proper h)).mp (hrows row hrow)]
    simp only [mapM_eq_error_iff, readOne_eq_ok_iff (Row.proper h _)]
    constructor
    · rintro ⟨row, hbehind, hrow⟩
      obtain ⟨_, ⟨⟩, hmiscoded⟩ :=
        (readOne_eq_error_iff (row.proper h) (hrows row hbehind.mem)).mp hrow
      exact ⟨hrows, row, hbehind, hmiscoded⟩
    · rintro ⟨-, row, hbehind, hmiscoded⟩
      refine ⟨row, hbehind, ?_⟩
      exact (readOne_eq_error_iff (row.proper h) (hrows row hbehind.mem)).mpr ⟨_, rfl, hmiscoded⟩
  · have hread : ¬∀ row ∈ rows, ∃ r, readRow row.entries = .ok r := fun hread =>
      hrows fun row hrow => (readable_iff (row.proper h)).mpr (hread row hrow)
    obtain ⟨e, -, he⟩ := readCards_of_not_ok hread
    rw [he]
    exact iff_of_false nofun fun hcorrupt => hrows hcorrupt.1

end Columns

def cardCells (entries : List Entry) : List Entry :=
  entries.filter fun e => e.1.name ∈ ["card_id", "name", "department", "card_type"]

theorem readNamed_eq_of_perm {entries entries' : List Entry} (h : Proper entries)
    (h' : Proper entries') (hcells : (cardCells entries).Perm (cardCells entries'))
    (kind : ColumnKind) (name : String)
    (hname : name ∈ ["card_id", "name", "department", "card_type"]) :
    readNamed kind entries name = readNamed kind entries' name := by
  have hcell : cellNamed? entries name = cellNamed? entries' name := by
    apply Option.ext
    intro e
    have he := hcells.mem_iff (a := e)
    simp only [cardCells, List.mem_filter, decide_eq_true_eq] at he
    rw [cellNamed?_eq_some_iff h, cellNamed?_eq_some_iff h']
    constructor
    · rintro ⟨hmem, rfl⟩
      exact ⟨(he.mp ⟨hmem, hname⟩).1, rfl⟩
    · rintro ⟨hmem, rfl⟩
      exact ⟨(he.mpr ⟨hmem, hname⟩).1, rfl⟩
  rw [readNamed, readNamed, hcell]

theorem readRow_eq_of_perm {entries entries' : List Entry} (h : Proper entries)
    (h' : Proper entries') (hcells : (cardCells entries).Perm (cardCells entries')) :
    readRow entries = readRow entries' := by
  have hnamed := readNamed_eq_of_perm h h' hcells
  rw [readRow, readRow, hnamed .integer "card_id" (by simp), hnamed .text "name" (by simp),
    hnamed .text "department" (by simp), hnamed .text "card_type" (by simp)]

/-- A listing is one card for each row, or else the first fault of the first row that cannot be
read, or else the first row of an unknown category. The same cells under the same names, in other
places or among others, come to the same. -/
theorem rows_all_or_nothing {σ : Type} (peer : Peer σ) (database : σ) {columns : List Column}
    {rows : List (Row columns)} {count : Nat} (hdistinct : (columns.map Column.name).Nodup)
    (hreply : (peer .selectAll database).1 = .completed columns rows count) :
    let x := (answer peer .findAll ⟨database, false⟩).1
    (∀ cards, x = .ok cards ↔ List.Forall₂ (fun row c => SaysCard row.entries c) rows cards) ∧
      (∀ e, x = .error (.database e) ↔
        ∃ row, Behind (fun r => Readable r.entries) rows row ∧ Unreadable row.entries e) ∧
      (∀ text, x = .error (.corrupt text) ↔ (∀ row ∈ rows, Readable row.entries) ∧
        ∃ row, Behind (fun r => ∃ c, SaysCard r.entries c) rows row ∧ Miscoded row.entries text) ∧
      x ≠ .error .duplicate ∧
      ∀ (peer' : Peer σ) (database' : σ) (columns' : List Column) (rows' : List (Row columns'))
        (count' : Nat), (columns'.map Column.name).Nodup →
        (peer' .selectAll database').1 = .completed columns' rows' count' →
        List.Forall₂ (fun row row' => (cardCells row.entries).Perm (cardCells row'.entries))
          rows rows' →
        (answer peer' .findAll ⟨database', false⟩).1 = x := by
  have hanswer {peer : Peer σ} {database : σ} {columns : List Column} {rows : List (Row columns)}
      {count : Nat} (h : (peer .selectAll database).1 = .completed columns rows count) :
      (answer peer .findAll ⟨database, false⟩).1 = readCards rows :=
    congrArg foundCards h
  intro x
  have hx : x = readCards rows := hanswer hreply
  rw [hx]
  refine ⟨fun cards => readCards_eq_ok_iff hdistinct, fun e => readCards_eq_database_iff hdistinct,
    fun text => readCards_eq_corrupt_iff hdistinct, readCards_ne_duplicate, ?_⟩
  intro peer' database' columns' rows' count' hdistinct' hreply' hcells
  have hrows : (rows.mapM fun row => readRow row.entries) =
      rows'.mapM fun row => readRow row.entries :=
    mapM_eq_of_forall₂ (hcells.imp fun row row' h =>
      readRow_eq_of_perm (row.proper hdistinct) (row'.proper hdistinct') h)
  rw [hanswer hreply', readCards, readCards, hrows]

def notedColumns : List Column :=
  [⟨"department", .varchar⟩, ⟨"note", .bytea⟩, ⟨"card_type", .bpchar⟩, ⟨"card_id", .int4⟩,
    ⟨"name", .varchar⟩]

def textCell : Option String → Cell
  | none => .null
  | some s => .text s

def notedRow (id : Int32) (name department code : Option String) : Row notedColumns where
  cells := [textCell department, .null, textCell code, .integer id.toInt, textCell name]
  length_eq := rfl
  admitted := by
    cases name <;> cases department <;> cases code <;>
      simp [notedColumns, textCell, Column.admits]

/-- A row of no category comes out only if all rows can be read. -/
theorem rows_all_or_nothing_of_three :
    let peer (rows : List (Row notedColumns)) : Peer Unit := fun _ s =>
      (.completed notedColumns rows rows.length, s)
    let plain : Peer Unit := fun _ s =>
      (Table.replyRows [⟨1, "Alice", "CS", "T "⟩, ⟨-2, "Bob", "EE", "S"⟩], s)
    let list (peer : Peer Unit) := (answer peer .findAll ⟨(), false⟩).1
    let alice := notedRow 1 (some "Alice") (some "CS") (some "T ")
    let bob := notedRow (-2) (some "Bob") (some "EE") (some "S")
    let carol := notedRow 3 (some "Carol") (some "EE") (some "X")
    let dave := notedRow 4 none (some "EE") none
    let cards : List Card := [⟨1, "Alice", "CS", .teacher⟩, ⟨-2, "Bob", "EE", .student⟩]
    let text := "card 3 has unknown type code \"X\""
    let e : DatabaseError := .columnUnreadable (.named "name") .unexpectedNull
    (notedColumns.map Column.name).Nodup ∧
      (list (peer [alice, bob]) = .ok cards ∧
        List.Forall₂ (fun row c => SaysCard row.entries c) [alice, bob] cards) ∧
      (list (peer [alice, carol, bob]) = .error (.corrupt text) ∧
        (∀ row ∈ [alice, carol, bob], Readable row.entries) ∧
        ∃ row, Behind (fun r => ∃ c, SaysCard r.entries c) [alice, carol, bob] row ∧
          Miscoded row.entries text) ∧
      (list (peer [alice, carol, dave]) = .error (.database e) ∧
        ∃ row, Behind (fun r => Readable r.entries) [alice, carol, dave] row ∧
          Unreadable row.entries e) ∧
      list plain = list (peer [alice, bob]) := by
  intro peer plain list alice bob carol dave cards text e
  have hdistinct : (notedColumns.map Column.name).Nodup := by decide
  have hall (rows : List (Row notedColumns)) :=
    rows_all_or_nothing (peer rows) () hdistinct (rfl : _ = Reply.completed _ rows rows.length)
  have hcards : list (peer [alice, bob]) = .ok cards := by rfl
  have hcorrupt : list (peer [alice, carol, bob]) = .error (.corrupt text) := by rfl
  have he : list (peer [alice, carol, dave]) = .error (.database e) := by rfl
  obtain ⟨hok, -, -, -, hsame⟩ := hall [alice, bob]
  refine ⟨hdistinct, ⟨hcards, (hok cards).mp hcards⟩, ⟨hcorrupt, ((hall _).2.2.1 text).mp hcorrupt⟩,
    ⟨he, ((hall _).2.1 e).mp he⟩, ?_⟩
  exact hsame plain () cardColumns _ _ (by decide) rfl (.cons (by decide) (.cons (by decide) .nil))

end Sql

end CardDesk
