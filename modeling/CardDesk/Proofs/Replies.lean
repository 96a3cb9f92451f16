import CardDesk.Proofs.Rows
import Mathlib.Data.List.Pairwise

namespace CardDesk.Sql

def lastEntries (entries : List Entry) : List Entry :=
  entries.pwFilter fun e e' => e.1.name ≠ e'.1.name

theorem find?_lastEntries (name : String) (entries : List Entry) :
    (lastEntries entries).reverse.find? (fun e => e.1.name = name) =
      entries.reverse.find? fun e => e.1.name = name := by
  induction entries with
  | nil => rfl
  | cons e entries ih =>
    rw [List.reverse_cons, List.find?_append, ← ih]
    -- An entry that is left out has a later one of its name, at which the search ends before.
    by_cases hlast : ∀ e' ∈ lastEntries entries, e.1.name ≠ e'.1.name
    · rw [lastEntries, List.pwFilter_cons_of_pos hlast, List.reverse_cons, List.find?_append,
        lastEntries]
    · rw [lastEntries, List.pwFilter_cons_of_neg hlast, ← lastEntries]
      by_cases hname : e.1.name = name
      · push Not at hlast
        obtain ⟨e', he', heq⟩ := hlast
        obtain ⟨c, hc⟩ := Option.isSome_iff_exists.mp
          (List.find?_isSome (p := fun e' : Entry => decide (e'.1.name = name)).mpr
            ⟨e', List.mem_reverse.mpr he', by simp [← heq, hname]⟩)
        rw [hc, Option.some_or]
      · simp [hname]

theorem readOne_lastEntries (entries : List Entry) :
    readOne (lastEntries entries) = readOne entries := by
  have hcell (name : String) : cellNamed? (lastEntries entries) name = cellNamed? entries name :=
    find?_lastEntries name entries
  simp only [readOne, readRow, readNamed, hcell]

theorem Row.lastEntries_proper {columns : List Column} (row : Row columns) :
    Proper (lastEntries row.entries) where
  names := List.pairwise_map.mpr (List.pairwise_pwFilter _)
  admitted _ he := admits_of_mem ((List.pwFilter_sublist _).subset he)

/-- A row is a card by the entries that count. -/
def Decodes {columns : List Column} (row : Row columns) (c : Card) : Prop :=
  SaysCard (lastEntries row.entries) c

section Columns

variable {columns : List Column} {rows : List (Row columns)}

theorem readOne_eq_ok_iff_decodes {row : Row columns} {c : Card} :
    readOne row.entries = .ok c ↔ Decodes row c := by
  rw [← readOne_lastEntries, readOne_eq_ok_iff row.lastEntries_proper, Decodes]

theorem readCard?_cons (row : Row columns) :
    readCard? (row :: rows) = (readOne row.entries).map some := by
  rw [readCard?, readOne]
  cases readRow row.entries <;> rfl

theorem readCards_eq_ok_iff_decodes {cards : List Card} :
    readCards rows = .ok cards ↔ List.Forall₂ Decodes rows cards := by
  simp only [readCards_eq_ok_iff_readOne, readOne_eq_ok_iff_decodes]

theorem exists_readCards_iff :
    (∃ cards, readCards rows = .ok cards) ↔ ∀ row ∈ rows, ∃ c, Decodes row c := by
  simp only [readCards_eq_ok_iff_readOne, ← readOne_eq_ok_iff_decodes, ← exists_mapM_eq_ok_iff,
    mapM_eq_ok_iff]

theorem readId_eq_ok_iff {row : Row columns} {id : Int32} :
    readId (row :: rows) = .ok id ↔
      ∃ name, row.entries.head? = some (⟨name, .int4⟩, .integer id.toInt) := by
  rw [readId]
  cases hentries : row.entries with
  | nil => simp
  | cons e entries =>
    have hmem : e ∈ row.entries := by simp [hentries]
    have hadmitted := Row.admits_of_mem hmem
    obtain ⟨⟨name, type⟩, cell⟩ := e
    refine (readCell_eq_ok_iff hadmitted).trans ?_
    simp [ColumnKind.types, cellOf]

end Columns

namespace Reply

def Rowless : Reply → Prop
  | .completed _ [] _ => True
  | _ => False

def Shows (c : Card) : Reply → Prop
  | .completed _ (row :: _) _ => Decodes row c
  | _ => False

/-- A reply by which a look-up fails: it is refused, or the first row is no card. -/
def Unusable : Reply → Prop
  | .completed _ (row :: _) _ => ∀ c, ¬Decodes row c
  | .completed _ [] _ => False
  | .refused _ => True

def Lists (cards : List Card) : Reply → Prop
  | .completed _ rows _ => List.Forall₂ Decodes rows cards
  | .refused _ => False

def Unlistable : Reply → Prop
  | .completed _ rows _ => ∃ row ∈ rows, ∀ c, ¬Decodes row c
  | .refused _ => True

def Gives (id : Int32) : Reply → Prop
  | .completed _ (row :: _) _ =>
    ∃ name, row.entries.head? = some (⟨name, .int4⟩, .integer id.toInt)
  | _ => False

def Conflicts : Reply → Prop
  | .refused e => e.code = "23505"
  | .completed .. => False

def Unnumbered : Reply → Prop
  | .refused e => e.code ≠ "23505"
  | reply => ∀ id, ¬reply.Gives id

def Refused : Reply → Prop
  | .refused _ => True
  | .completed .. => False

def count : Reply → Nat
  | .completed _ _ count => count
  | .refused _ => 0

variable {reply : Reply}

theorem rowless_iff : reply.Rowless ↔ foundCard reply = .ok none := by
  match reply with
  | .refused e => simp [foundCard, Rowless]
  | .completed columns [] n => simp [foundCard, readCard?, Rowless]
  | .completed columns (row :: rest) n =>
    simp only [foundCard, readCard?_cons, Rowless]
    cases readOne row.entries <;> simp [Except.map]

theorem shows_iff {c : Card} : reply.Shows c ↔ foundCard reply = .ok (some c) := by
  match reply with
  | .refused e => simp [foundCard, Shows]
  | .completed columns [] n => simp [foundCard, readCard?, Shows]
  | .completed columns (row :: rest) n =>
    simp only [foundCard, readCard?_cons, Shows, ← readOne_eq_ok_iff_decodes]
    cases readOne row.entries <;> simp [Except.map]

theorem unusable_iff : reply.Unusable ↔ ∃ e, foundCard reply = .error e := by
  match reply with
  | .refused e => simp [foundCard, Unusable]
  | .completed columns [] n => simp [foundCard, readCard?, Unusable]
  | .completed columns (row :: rest) n =>
    simp only [foundCard, readCard?_cons, Unusable, ← readOne_eq_ok_iff_decodes]
    cases readOne row.entries <;> simp [Except.map]

theorem lists_iff {cards : List Card} : reply.Lists cards ↔ foundCards reply = .ok cards := by
  cases reply with
  | refused e => simp [foundCards, Lists]
  | completed columns rows n => exact readCards_eq_ok_iff_decodes.symm

theorem unlistable_iff : reply.Unlistable ↔ ∃ e, foundCards reply = .error e := by
  cases reply with
  | refused e => simp [foundCards, Unlistable]
  | completed columns rows n =>
    have hall : (∃ cards, readCards rows = .ok cards) ↔ ∀ row ∈ rows, ∃ c, Decodes row c :=
      exists_readCards_iff
    simp only [foundCards, Unlistable]
    cases hread : readCards rows with
    | ok cards =>
      have hrows := hall.mp ⟨cards, hread⟩
      simpa using hrows
    | error e =>
      have hrows : ¬∀ row ∈ rows, ∃ c, Decodes row c := by
        rw [← hall, hread]
        nofun
      simpa using hrows

theorem gives_iff {id : Int32} : reply.Gives id ↔ insertedId reply = .ok id := by
  match reply with
  | .refused e =>
    simp only [insertedId, Gives, false_iff]
    split <;> nofun
  | .completed columns [] n => simp [insertedId, readId, Gives]
  | .completed columns (row :: rest) n =>
    have hid : readId (row :: rest) = .ok id ↔ _ := readId_eq_ok_iff
    simp only [insertedId, Gives, ← hid]
    cases readId (row :: rest) <;> simp

theorem conflicts_iff : reply.Conflicts ↔ insertedId reply = .error .duplicate := by
  cases reply with
  | refused e =>
    by_cases he : e.code = "23505" <;> simp [insertedId, uniqueViolation, Conflicts, he]
  | completed columns rows n =>
    simp only [insertedId, Conflicts]
    cases readId rows <;> simp

theorem unnumbered_iff :
    reply.Unnumbered ↔ ∃ e, insertedId reply = .error e ∧ e ≠ .duplicate := by
  cases reply with
  | refused e =>
    by_cases he : e.code = "23505" <;> simp [insertedId, uniqueViolation, Unnumbered, he]
  | completed columns rows n =>
    simp only [Unnumbered, gives_iff, insertedId]
    cases readId rows <;> simp

theorem affects_none_iff : ¬reply.Refused ∧ reply.count = 0 ↔ removedAny reply = .ok false := by
  cases reply <;> simp [removedAny, Refused, count]

theorem affects_some_iff : ¬reply.Refused ∧ 0 < reply.count ↔ removedAny reply = .ok true := by
  cases reply <;> simp [removedAny, Refused, count]

theorem refused_iff : reply.Refused ↔ ∃ e, removedAny reply = .error e := by
  cases reply <;> simp [removedAny, Refused]

theorem refused_iff_acknowledged : reply.Refused ↔ ∃ e, acknowledged reply = .error e := by
  cases reply <;> simp [acknowledged, Refused]

theorem not_refused_iff : ¬reply.Refused ↔ acknowledged reply = .ok () := by
  cases reply <;> simp [acknowledged, Refused]

end Reply

end CardDesk.Sql
