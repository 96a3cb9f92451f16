import CardDesk.Proofs.Json.Unambiguous

namespace CardDesk.Json

/-- What may stand between the quotes of a string, whatever it stands for. -/
inductive Quotable : Bytes → Prop
  | nil : Quotable []
  | byte {b : UInt8} {raw : Bytes} (hquote : b ≠ quoteMark) (hbackslash : b ≠ backslash)
    (hcontrol : ¬b < 0x20) (h : Quotable raw) : Quotable (b :: raw)
  | short {letter : UInt8} {c : Char} {raw : Bytes} (hletter : (letter, c) ∈ shortEscapes)
    (h : Quotable raw) : Quotable (0x5C :: letter :: raw)
  | hex {ds raw : Bytes} {n : Nat} (hds : FourHexDigits ds n) (h : Quotable raw) :
    Quotable (0x5C :: 0x75 :: ds ++ raw)

inductive Scalar : Bytes → Prop
  | null : Scalar [0x6E, 0x75, 0x6C, 0x6C]
  | trueWord : Scalar [0x74, 0x72, 0x75, 0x65]
  | falseWord : Scalar [0x66, 0x61, 0x6C, 0x73, 0x65]
  | number (l : Literal) : Scalar l.bytes
  | text {raw : Bytes} (h : Quotable raw) : Scalar (0x22 :: raw ++ [0x22])

def Frame.opening : Frame → UInt8
  | list => 0x5B
  | object => 0x7B

mutual

inductive Shape : Bytes → Prop
  | scalar {raw : Bytes} (h : Scalar raw) : Shape raw
  | empty (frame : Frame) {blank : Bytes} (h : Blank blank) :
    Shape (frame.opening :: blank ++ [frame.close])
  | filled (frame : Frame) {n : Nat} {raw : Bytes}
    (h : Separated Item (List.replicate n frame) raw) :
    Shape (frame.opening :: raw ++ [frame.close])

inductive Item : Frame → Bytes → Prop
  | element {raw : Bytes} (h : Shape raw) : Item .list raw
  | member {key before after raw : Bytes} (hkey : Quotable key) (hbefore : Blank before)
    (hafter : Blank after) (h : Shape raw) :
    Item .object (0x22 :: key ++ 0x22 :: before ++ 0x3A :: after ++ raw)

end

theorem Shape.bracketed {frame : Frame} {n : Nat} {body : Bytes}
    (h : Inside Item (List.replicate n frame) body) :
    Shape (frame.opening :: body ++ [frame.close]) := by
  rcases h with h | ⟨-, h⟩
  · exact .filled frame h
  · exact .empty frame h

theorem Shape.cases_bracketed {raw : Bytes} (h : Shape raw) :
    Scalar raw ∨ ∃ frame k body, Inside Item (List.replicate k frame) body ∧
      raw = frame.opening :: body ++ [frame.close] := by
  cases h with
  | scalar h => exact .inl h
  | empty frame h => exact .inr ⟨frame, 0, _, .inr ⟨rfl, h⟩, rfl⟩
  | filled frame h => exact .inr ⟨frame, _, _, .inl h, rfl⟩

def Literal.unsigned (l : Literal) : Bytes :=
  l.whole ++ (l.fractionBytes ++ l.exponentBytes)

theorem Literal.bytes_eq_unsigned (l : Literal) :
    l.bytes = (if l.negative then [0x2D] else []) ++ l.unsigned :=
  l.bytes_eq

theorem Literal.unsigned_opens (l : Literal) :
    ∃ d t, l.unsigned = d :: t ∧ 0x30 ≤ d ∧ d ≤ 0x39 := by
  obtain ⟨d, hd, hdigit⟩ := head_of_digits l.whole_digits (l.fractionBytes ++ l.exponentBytes)
  obtain ⟨t, ht⟩ := List.head?_eq_some_iff.mp hd
  exact ⟨d, t, ht, isDigit_iff.mp hdigit⟩

theorem Scalar.opens {raw : Bytes} (h : Scalar raw) :
    ∃ b t, raw = b :: t ∧ isSpace b = false ∧ b ≠ 0x5B ∧ b ≠ 0x7B ∧ b ≠ 0x5D := by
  cases h with
  | number l =>
    obtain ⟨d, t, ht, hd⟩ := l.unsigned_opens
    rw [l.bytes_eq_unsigned, ht]
    cases l.negative with
    | true => exact ⟨_, _, rfl, by decide, by decide, by decide, by decide⟩
    | false =>
      refine ⟨d, t, rfl, (isSpace_of_digit hd).1, ?_, ?_, (isSpace_of_digit hd).2.2.1⟩
      all_goals
        rintro rfl
        exact absurd hd (by decide)
  | _ => exact ⟨_, _, rfl, by decide, by decide, by decide, by decide⟩

theorem Shape.opens {raw : Bytes} (h : Shape raw) :
    ∃ b t, raw = b :: t ∧ isSpace b = false ∧ b ≠ 0x5D := by
  cases h with
  | scalar h =>
    obtain ⟨b, t, hraw, hspace, -, -, hclose⟩ := h.opens
    exact ⟨b, t, hraw, hspace, hclose⟩
  | empty frame => cases frame <;> exact ⟨_, _, rfl, by decide, by decide⟩
  | filled frame => cases frame <;> exact ⟨_, _, rfl, by decide, by decide⟩

theorem Item.opens {frame : Frame} {raw : Bytes} (h : Item frame raw) :
    ∃ b t, raw = b :: t ∧ isSpace b = false ∧ b ≠ frame.close := by
  cases h with
  | element h => exact h.opens
  | member => exact ⟨_, _, rfl, by decide, by decide⟩

theorem Frame.close_cases (frame : Frame) : frame.close = 0x5D ∨ frame.close = 0x7D := by
  cases frame
  · exact .inl rfl
  · exact .inr rfl

theorem Quotable.of_pieces {bytes raw : Bytes} (h : Pieces bytes raw) : Quotable raw := by
  induction h with
  | nil => exact .nil
  | byte hquote hbackslash hcontrol _ ih => exact .byte hquote hbackslash hcontrol ih
  | escaped he _ ih =>
    cases he with
    | short hletter => exact .short hletter ih
    | hex hds => exact .hex hds ih
    | surrogates hds hes => simpa using Quotable.hex hds (Quotable.hex hes ih)

theorem TextWritten.quotable {t : String} {raw : Bytes} (h : TextWritten t raw) :
    ∃ key, Quotable key ∧ raw = 0x22 :: key ++ [0x22] := by
  obtain ⟨h⟩ := h
  exact ⟨_, .of_pieces h.pieces, rfl⟩

theorem Separated.items {α : Type} {P : α → Bytes → Prop} {as : List α} {raw : Bytes} {n : Nat}
    {frame : Frame} (h : Separated P as raw) (hn : raw.length < n)
    (hP : ∀ {a : α} {item : Bytes}, item.length < n → P a item → Item frame item) :
    Separated Item (List.replicate as.length frame) raw := by
  induction h with
  | one hbefore h hafter =>
    simp only [List.length_append] at hn
    exact .one hbefore (hP (by omega) h) hafter
  | cons hbefore h hafter _ ih =>
    simp only [List.length_append, List.length_cons] at hn
    exact .cons hbefore (hP (by omega) h) hafter (ih (by omega))

theorem shape_below (n : Nat) :
    ∀ {v : Value} {raw : Bytes}, raw.length < n → Written v raw → Shape raw := by
  induction n with
  | zero =>
    intro v raw hn
    cases hn
  | succ n ih =>
    intro v raw hn h
    cases h with
    | null => exact .scalar .null
    | trueWord => exact .scalar .trueWord
    | falseWord => exact .scalar .falseWord
    | number l => exact .scalar (.number l)
    | text h =>
      obtain ⟨key, hkey, rfl⟩ := h.quotable
      exact .scalar (.text hkey)
    | emptyList h => exact .empty .list h
    | @list vs raw h =>
      have hlength : raw.length < n := by
        simp only [List.cons_append, List.length_cons, List.length_append] at hn
        omega
      exact .filled .list (h.items hlength fun hn h => .element (ih hn h))
    | emptyObject h => exact .empty .object h
    | @object ms raw h =>
      have hlength : raw.length < n := by
        simp only [List.cons_append, List.length_cons, List.length_append] at hn
        omega
      refine .filled .object (h.items hlength ?_)
      rintro m item hn ⟨htext, hbefore, hafter, hv⟩
      obtain ⟨key, hkey, rfl⟩ := htext.quotable
      simp only [List.length_append, List.length_cons] at hn
      simpa using Item.member hkey hbefore hafter (ih (by omega) hv)

theorem Written.shape {v : Value} {raw : Bytes} (h : Written v raw) : Shape raw :=
  shape_below _ (Nat.lt_succ_self _) h

end CardDesk.Json
