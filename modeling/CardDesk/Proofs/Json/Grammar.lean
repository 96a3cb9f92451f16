import CardDesk.Json.Fault

/-!
The grammar of JSON over bytes. A value is what a text says, with numbers kept as they are written;
one value may be written in many ways.
-/

namespace CardDesk.Json

def Blank (s : Bytes) : Prop :=
  ∀ b ∈ s, b = 0x20 ∨ b = 0x09 ∨ b = 0x0A ∨ b = 0x0D

inductive HexDigit : UInt8 → Nat → Prop
  | digit {n : Nat} (h : n < 10) : HexDigit (UInt8.ofNat (0x30 + n)) n
  | upper {n : Nat} (h : n < 6) : HexDigit (UInt8.ofNat (0x41 + n)) (10 + n)
  | lower {n : Nat} (h : n < 6) : HexDigit (UInt8.ofNat (0x61 + n)) (10 + n)

inductive FourHexDigits : Bytes → Nat → Prop
  | mk {a b c d : UInt8} {i j k l : Nat} (ha : HexDigit a i) (hb : HexDigit b j)
    (hc : HexDigit c k) (hd : HexDigit d l) :
    FourHexDigits [a, b, c, d] (i * 4096 + j * 256 + k * 16 + l)

def shortEscapes : List (UInt8 × Char) :=
  [(0x22, '"'), (0x5C, '\\'), (0x2F, '/'), (0x62, '\x08'), (0x66, '\x0C'), (0x6E, '\n'),
    (0x72, '\r'), (0x74, '\t')]

/-- What stands behind the backslash of an escape. A character beyond the first plane takes two of
them, one for each surrogate. -/
inductive Escaped : Char → Bytes → Prop
  | short {c : Char} {letter : UInt8} (h : (letter, c) ∈ shortEscapes) : Escaped c [letter]
  | hex {c : Char} {ds : Bytes} (h : FourHexDigits ds c.toNat) : Escaped c (0x75 :: ds)
  | surrogates {c : Char} {ds es : Bytes} {high low : Nat} (hds : FourHexDigits ds high)
    (hes : FourHexDigits es low) (hhigh : 0xD800 ≤ high ∧ high ≤ 0xDBFF)
    (hlow : 0xDC00 ≤ low ∧ low ≤ 0xDFFF)
    (hc : c.toNat = 0x10000 + (high - 0xD800) * 0x400 + (low - 0xDC00)) :
    Escaped c (0x75 :: ds ++ 0x5C :: 0x75 :: es)

inductive CharWritten : Char → Bytes → Prop
  | plain {c : Char} (hcontrol : 0x20 ≤ c.toNat) (hquote : c ≠ '"') (hbackslash : c ≠ '\\') :
    CharWritten c (String.utf8EncodeChar c)
  | escaped {c : Char} {raw : Bytes} (h : Escaped c raw) : CharWritten c (0x5C :: raw)

inductive CharsWritten : List Char → Bytes → Prop
  | nil : CharsWritten [] []
  | cons {c : Char} {cs : List Char} {raw rest : Bytes} (h : CharWritten c raw)
    (hrest : CharsWritten cs rest) : CharsWritten (c :: cs) (raw ++ rest)

inductive TextWritten : String → Bytes → Prop
  | mk {s : String} {raw : Bytes} (h : CharsWritten s.toList raw) :
    TextWritten s (0x22 :: raw ++ [0x22])

def Digits (ds : Bytes) : Prop :=
  ds ≠ [] ∧ ∀ b ∈ ds, 0x30 ≤ b ∧ b ≤ 0x39

def decimalFrom (n : Nat) (ds : Bytes) : Nat :=
  ds.foldl (fun n b => n * 10 + (b.toNat - 0x30)) n

def decimal (ds : Bytes) : Nat :=
  decimalFrom 0 ds

/-- A number as it is written: a whole part without superfluous zeros, and perhaps a fraction and
an exponent. -/
structure Literal where
  negative : Bool
  whole : Bytes
  fraction : Option Bytes
  exponent : Option (Bytes × Bytes)
  whole_digits : Digits whole
  whole_plain : whole.head? = some 0x30 → whole = [0x30]
  fraction_digits : ∀ ds ∈ fraction, Digits ds
  exponent_mark : ∀ x ∈ exponent,
    x.1 ∈ [[0x65], [0x65, 0x2B], [0x65, 0x2D], [0x45], [0x45, 0x2B], [0x45, 0x2D]]
  exponent_digits : ∀ x ∈ exponent, Digits x.2

namespace Literal

def bytes (l : Literal) : Bytes :=
  (if l.negative then [0x2D] else []) ++ l.whole ++
    (match l.fraction with
      | none => []
      | some ds => 0x2E :: ds) ++
    match l.exponent with
    | none => []
    | some (mark, ds) => mark ++ ds

def integer? (l : Literal) : Option Int :=
  match l.fraction, l.exponent with
  | none, none =>
    if l.negative then if l.whole = [0x30] then none else some (-decimal l.whole)
    else some (decimal l.whole)
  | _, _ => none

end Literal

inductive Value where
  | null
  | bool (b : Bool)
  | number (l : Literal)
  | text (s : String)
  | list (vs : List Value)
  | object (ms : List (String × Value))

inductive Separated {α : Type} (P : α → Bytes → Prop) : List α → Bytes → Prop
  | one {a : α} {before raw after : Bytes} (hbefore : Blank before) (h : P a raw)
    (hafter : Blank after) : Separated P [a] (before ++ raw ++ after)
  | cons {a : α} {as : List α} {before raw after rest : Bytes} (hbefore : Blank before)
    (h : P a raw) (hafter : Blank after) (hrest : Separated P as rest) :
    Separated P (a :: as) (before ++ raw ++ after ++ 0x2C :: rest)

mutual

inductive Written : Value → Bytes → Prop
  | null : Written .null [0x6E, 0x75, 0x6C, 0x6C]
  | trueWord : Written (.bool true) [0x74, 0x72, 0x75, 0x65]
  | falseWord : Written (.bool false) [0x66, 0x61, 0x6C, 0x73, 0x65]
  | number (l : Literal) : Written (.number l) l.bytes
  | text {s : String} {raw : Bytes} (h : TextWritten s raw) : Written (.text s) raw
  | emptyList {blank : Bytes} (h : Blank blank) : Written (.list []) (0x5B :: blank ++ [0x5D])
  | list {vs : List Value} {raw : Bytes} (h : Separated Written vs raw) :
    Written (.list vs) (0x5B :: raw ++ [0x5D])
  | emptyObject {blank : Bytes} (h : Blank blank) :
    Written (.object []) (0x7B :: blank ++ [0x7D])
  | object {ms : List (String × Value)} {raw : Bytes} (h : Separated MemberWritten ms raw) :
    Written (.object ms) (0x7B :: raw ++ [0x7D])

inductive MemberWritten : String × Value → Bytes → Prop
  | mk {name : String} {v : Value} {key before after raw : Bytes} (hkey : TextWritten name key)
    (hbefore : Blank before) (hafter : Blank after) (h : Written v raw) :
    MemberWritten (name, v) (key ++ before ++ 0x3A :: after ++ raw)

end

/-- A text that is one value, with white space around it and nothing else. -/
def WrittenAlone (v : Value) (input : Bytes) : Prop :=
  ∃ before raw after, Blank before ∧ Written v raw ∧ Blank after ∧ input = before ++ raw ++ after

end CardDesk.Json
