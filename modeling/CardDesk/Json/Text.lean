import CardDesk.Json.Fault

namespace CardDesk.Json

def quoteMark : UInt8 := 0x22

def backslash : UInt8 := 0x5C

def hexValue? (b : UInt8) : Option Nat :=
  let n := b.toNat
  if 0x30 ≤ n ∧ n ≤ 0x39 then some (n - 0x30)
  else if 0x41 ≤ n ∧ n ≤ 0x46 then some (n - 0x37)
  else if 0x61 ≤ n ∧ n ≤ 0x66 then some (n - 0x57)
  else none

def hexNumber? (a b c d : UInt8) : Option Nat := do
  let a ← hexValue? a
  let b ← hexValue? b
  let c ← hexValue? c
  let d ← hexValue? d
  return ((a * 16 + b) * 16 + c) * 16 + d

def readHex : Bytes → Except Fault (Nat × Bytes)
  | a :: b :: c :: d :: r =>
    match hexNumber? a b c d with
    | some n => .ok (n, r)
    | none => .error ⟨.invalidEscape, r⟩
  | _ => .error ⟨.eofInString, []⟩

def isLeading (n : Nat) : Bool :=
  0xD800 ≤ n && n ≤ 0xDBFF

def isTrailing (n : Nat) : Bool :=
  0xDC00 ≤ n && n ≤ 0xDFFF

def encodeChar (n : Nat) : Bytes :=
  String.utf8EncodeChar (Char.ofNat n)

def readTrailing (high : Nat) : Bytes → Except Fault (Bytes × Bytes)
  | [] => .error ⟨.eofInString, []⟩
  | a :: r =>
    if a ≠ backslash then .error ⟨.unexpectedEndOfHexEscape, r⟩
    else match r with
      | [] => .error ⟨.eofInString, []⟩
      | b :: r =>
        if b ≠ 0x75 then .error ⟨.unexpectedEndOfHexEscape, r⟩
        else match readHex r with
          | .error f => .error f
          | .ok (low, r) =>
            if isTrailing low then
              .ok (encodeChar ((high - 0xD800) * 0x400 + (low - 0xDC00) + 0x10000), r)
            else .error ⟨.loneSurrogate, r⟩

def readUnicode (s : Bytes) : Except Fault (Bytes × Bytes) :=
  match readHex s with
  | .error f => .error f
  | .ok (n, r) =>
    if isTrailing n then .error ⟨.loneSurrogate, r⟩
    else if isLeading n then readTrailing n r
    else .ok (encodeChar n, r)

def shortEscape? (b : UInt8) : Option UInt8 :=
  if b = 0x22 then some 0x22
  else if b = 0x5C then some 0x5C
  else if b = 0x2F then some 0x2F
  else if b = 0x62 then some 0x08
  else if b = 0x66 then some 0x0C
  else if b = 0x6E then some 0x0A
  else if b = 0x72 then some 0x0D
  else if b = 0x74 then some 0x09
  else none

def readEscape : Bytes → Except Fault (Bytes × Bytes)
  | [] => .error ⟨.eofInString, []⟩
  | b :: r =>
    if b = 0x75 then readUnicode r
    else match shortEscape? b with
      | some c => .ok ([c], r)
      | none => .error ⟨.invalidEscape, r⟩

theorem readHex_length {s : Bytes} {n : Nat} {r : Bytes} (h : readHex s = .ok (n, r)) :
    r.length < s.length := by
  unfold readHex at h
  split at h
  · split at h
    · simp only [Except.ok.injEq, Prod.mk.injEq] at h
      simp only [List.length_cons, ← h.2]
      omega
    · simp at h
  · simp at h

theorem readTrailing_length {high : Nat} {s v r : Bytes} (h : readTrailing high s = .ok (v, r)) :
    r.length < s.length := by
  unfold readTrailing at h
  split at h
  · simp at h
  · split at h
    · simp at h
    · split at h
      · simp at h
      · split at h
        · simp at h
        · split at h
          · simp at h
          · rename_i hh
            split at h
            · have := readHex_length hh
              simp only [Except.ok.injEq, Prod.mk.injEq] at h
              simp only [List.length_cons, ← h.2]
              omega
            · simp at h

theorem readUnicode_length {s v r : Bytes} (h : readUnicode s = .ok (v, r)) :
    r.length < s.length := by
  unfold readUnicode at h
  split at h
  · simp at h
  · rename_i hh
    have := readHex_length hh
    split at h
    · simp at h
    · split at h
      · have := readTrailing_length h
        omega
      · simp only [Except.ok.injEq, Prod.mk.injEq] at h
        rwa [← h.2]

theorem readEscape_length {s v r : Bytes} (h : readEscape s = .ok (v, r)) :
    r.length < s.length := by
  unfold readEscape at h
  split at h
  · simp at h
  · split at h
    · have := readUnicode_length h
      simp only [List.length_cons]
      omega
    · split at h
      · simp only [Except.ok.injEq, Prod.mk.injEq] at h
        simp [h.2]
      · simp at h

def readBytes (done : Bytes) (s : Bytes) : Except Fault (Bytes × Bytes) :=
  match s with
  | [] => .error ⟨.eofInString, []⟩
  | b :: r =>
    if b = quoteMark then .ok (done.reverse, r)
    else if b = backslash then
      match h : readEscape r with
      | .error f => .error f
      | .ok (c, r') =>
        have := readEscape_length h
        readBytes (c.reverse ++ done) r'
    else if b < 0x20 then .error ⟨.controlCharacter, r⟩
    else readBytes (b :: done) r
termination_by s.length
decreasing_by all_goals (simp only [List.length_cons]; omega)

def fromInvalid (s : Bytes) : Bytes :=
  match s with
  | [] => []
  | b :: r =>
    match (b :: r.take 3).toByteArray.utf8DecodeChar? 0 with
    | some c => fromInvalid ((b :: r).drop c.utf8Size)
    | none => b :: r
termination_by s.length
decreasing_by
  have := c.utf8Size_pos
  simp only [List.length_drop, List.length_cons]
  omega

def readText (s : Bytes) : Except Fault (String × Bytes) :=
  match readBytes [] s with
  | .error f => .error f
  | .ok (bytes, r) =>
    match String.fromUTF8? bytes.toByteArray with
    | some t => .ok (t, r)
    | none => .error ⟨.invalidCodePoint, (fromInvalid s).tail⟩

def skipText (s : Bytes) : Except Fault Bytes :=
  match s with
  | [] => .error ⟨.eofInString, []⟩
  | b :: r =>
    if b = quoteMark then .ok r
    else if b = backslash then
      match r with
      | [] => .error ⟨.eofInString, []⟩
      | c :: r =>
        if c = 0x75 then
          match h : readHex r with
          | .error f => .error f
          | .ok (_, r') =>
            have := readHex_length h
            skipText r'
        else if (shortEscape? c).isSome then skipText r
        else .error ⟨.invalidEscape, r⟩
    else if b < 0x20 then .error ⟨.controlCharacter, b :: r⟩
    else skipText r
termination_by s.length
decreasing_by all_goals (simp only [List.length_cons]; omega)

theorem readBytes_length {done s v r : Bytes} (h : readBytes done s = .ok (v, r)) :
    r.length < s.length := by
  fun_induction readBytes done s with
  | case1 => simp at h
  | case2 => simp_all
  | case3 => simp at h
  | case4 =>
    rename_i hlt ih
    have := ih h
    simp only [List.length_cons]
    omega
  | case5 => simp at h
  | case6 =>
    rename_i ih
    have := ih h
    simp only [List.length_cons]
    omega

theorem readText_length {s : Bytes} {v : String} {r : Bytes} (h : readText s = .ok (v, r)) :
    r.length < s.length := by
  unfold readText at h
  split at h
  · simp at h
  · rename_i hb
    split at h
    · simp only [Except.ok.injEq, Prod.mk.injEq] at h
      have := readBytes_length hb
      simpa [h.2] using this
    · simp at h

theorem skipText_length {s r : Bytes} (h : skipText s = .ok r) : r.length < s.length := by
  fun_induction skipText s with
  | case1 => simp at h
  | case2 => simp_all
  | case3 => simp at h
  | case4 => simp at h
  | case5 =>
    rename_i ih
    have := ih h
    simp only [List.length_cons]
    omega
  | case6 =>
    rename_i ih
    have := ih h
    simp only [List.length_cons]
    omega
  | case7 => simp at h
  | case8 => simp at h
  | case9 =>
    rename_i ih
    have := ih h
    simp only [List.length_cons]
    omega

def hexChar (n : Nat) : Char :=
  if n < 10 then Char.ofNat (0x30 + n) else Char.ofNat (0x57 + n)

def escapeChar (c : Char) : List Char :=
  if c = '"' then ['\\', '"']
  else if c = '\\' then ['\\', '\\']
  else if c = '\x08' then ['\\', 'b']
  else if c = '\x09' then ['\\', 't']
  else if c = '\x0A' then ['\\', 'n']
  else if c = '\x0C' then ['\\', 'f']
  else if c = '\x0D' then ['\\', 'r']
  else if c.toNat < 0x20 then
    ['\\', 'u', '0', '0', hexChar (c.toNat / 16), hexChar (c.toNat % 16)]
  else [c]

def quote (s : String) : String :=
  String.ofList ('"' :: s.toList.flatMap escapeChar ++ ['"'])

def list (items : List String) : String :=
  "[" ++ ",".intercalate items ++ "]"

def object (members : List (String × String)) : String :=
  "\x7b" ++ ",".intercalate (members.map fun (k, v) => quote k ++ ":" ++ v) ++ "\x7d"

end CardDesk.Json
