import CardDesk.Http.Desk
import CardDesk.Proofs.Json.Unambiguous
import CardDesk.Proofs.Json.Writing

namespace CardDesk

open Json

theorem Json.Written.alone_iff {v : Value} {raw : Bytes} (h : Written v raw) (v' : Value) :
    WrittenAlone v' raw ↔ v' = v := by
  have halone : WrittenAlone v raw := ⟨[], raw, [], Blank.nil, h, Blank.nil, by simp⟩
  constructor
  · intro h'
    exact h'.unique halone
  · rintro rfl
    exact halone

theorem Json.bytesOf_list (items : List String) :
    bytesOf (Json.list items) = 0x5B :: [0x2C].intercalate (items.map bytesOf) ++ [0x5D] := by
  have hopen : bytesOf "[" = [0x5B] := by decide
  have hclose : bytesOf "]" = [0x5D] := by decide
  have hcomma : bytesOf "," = [0x2C] := by decide
  have hitems : bytesOf (",".intercalate items) = [0x2C].intercalate (items.map bytesOf) := by
    induction items with
    | nil => decide
    | cons item items ih =>
      cases items with
      | nil => simp
      | cons next items =>
        rw [List.map_cons] at ih
        simp [bytesOf_append, hcomma, ih]
  rw [Json.list, bytesOf_append, bytesOf_append, hopen, hclose, hitems]
  rfl

theorem Json.integer_written (n : Int) : Written (.number (.ofInt n)) (bytesOf n.repr) := by
  rw [← Int.toString_eq_repr, ← Literal.bytes_ofInt]
  exact .number _

theorem Json.toString_id_inj {i j : Int32} : toString i.toInt = toString j.toInt ↔ i = j := by
  constructor
  · intro h
    rw [Int.toString_eq_repr, Int.toString_eq_repr] at h
    have hj : WrittenAlone (.number (.ofInt j.toInt)) (bytesOf i.toInt.repr) :=
      h ▸ ((integer_written j.toInt).alone_iff _).mpr rfl
    have hsame := Value.number.inj (((integer_written i.toInt).alone_iff _).mp hj)
    have hi := Literal.integer?_ofInt i.toInt
    rw [← hsame, Literal.integer?_ofInt] at hi
    exact (Int32.toInt_inj.mp (Option.some.inj hi)).symm
  · rintro rfl
    rfl

theorem Category.letter_eq (c : Category) : (if c = .teacher then "T" else "S") = c.code := by
  cases c <;> rfl

namespace Card

def members (c : Card) : List (String × Value) :=
  [("id", .number (.ofInt c.id.toInt)), ("name", .text c.name), ("department", .text c.department),
    ("type", .text (if c.category = .teacher then "T" else "S"))]

def value (c : Card) : Value :=
  .object c.members

theorem json_written (c : Card) : Written c.value (bytesOf c.json) := by
  have htext (s : String) : Written (.text s) (bytesOf (quote s)) := .text (quote_written s)
  apply object_written
  simp [members, integer_written, htext, Category.json, Category.letter_eq]

end Card

namespace Http

structure ListsCards (cards : List Card) (body : Bytes) : Prop where
  bytes : body = 0x5B :: [0x2C].intercalate (cards.map fun c => bytesOf c.json) ++ [0x5D]
  value_iff : ∀ v, WrittenAlone v body ↔ v = .list (cards.map Card.value)

theorem cardsJson_written (cards : List Card) :
    Written (.list (cards.map Card.value)) (bytesOf (cardsJson cards)) := by
  apply list_written
  rw [List.forall₂_map_left_iff, List.forall₂_map_right_iff, List.forall₂_same]
  intro c _
  exact c.json_written

theorem cardsJson_listsCards (cards : List Card) :
    ListsCards cards (bytesOf (cardsJson cards)) where
  bytes := by
    rw [cardsJson, bytesOf_list, List.map_map]
    rfl
  value_iff := (cardsJson_written cards).alone_iff

end Http

end CardDesk
