import CardDesk.Json.Scalar

namespace CardDesk.Json

def comma : UInt8 := 0x2C

def readKey (first : Bool) (s : Bytes) : Except Fault (Option String × Bytes) :=
  match skipSpace s with
  | [] => .error ⟨.eofInObject, []⟩
  | b :: r =>
    if b = 0x7D then .ok (none, b :: r)
    else if first then
      if b = quoteMark then (readText r).map fun (k, r) => (some k, r)
      else .error ⟨.keyNotString, r⟩
    else if b = comma then
      match skipSpace r with
      | [] => .error ⟨.eofInValue, []⟩
      | c :: t =>
        if c = quoteMark then (readText t).map fun (k, r) => (some k, r)
        else if c = 0x7D then .error ⟨.trailingComma, t⟩
        else .error ⟨.keyNotString, t⟩
    else .error ⟨.expectedObjectCommaOrEnd, r⟩

def readColon (s : Bytes) : Except Fault Bytes :=
  match skipSpace s with
  | [] => .error ⟨.eofInObject, []⟩
  | b :: r => if b = 0x3A then .ok r else .error ⟨.expectedColon, r⟩

def readElement (first : Bool) (s : Bytes) : Except Fault (Option Bytes) :=
  match skipSpace s with
  | [] => .error ⟨.eofInList, []⟩
  | b :: r =>
    if b = 0x5D then .ok none
    else if first then .ok (some (b :: r))
    else if b = comma then
      match skipSpace r with
      | [] => .error ⟨.eofInValue, []⟩
      | c :: t => if c = 0x5D then .error ⟨.trailingComma, t⟩ else .ok (some (c :: t))
    else .error ⟨.expectedListCommaOrEnd, r⟩

def closeObject (s : Bytes) : Except Fault Bytes :=
  match skipSpace s with
  | [] => .error ⟨.eofInObject, []⟩
  | b :: r =>
    if b = 0x7D then .ok r
    else if b = comma then .error ⟨.trailingComma, r⟩
    else .error ⟨.trailingCharacters, r⟩

def closeList (s : Bytes) : Except Fault Bytes :=
  match skipSpace s with
  | [] => .error ⟨.eofInList, []⟩
  | b :: r =>
    if b = 0x5D then .ok r
    else if b = comma then
      match skipSpace r with
      | 0x5D :: t => .error ⟨.trailingComma, t⟩
      | t => .error (.atNext .trailingCharacters t)
    else .error ⟨.trailingCharacters, r⟩

/-- A mismatch found between the members of an object is placed behind its closing brace where
that follows at once. -/
def objectFault (m : Mismatch) (s : Bytes) : Fault :=
  match skipSpace s with
  | 0x7D :: r => ⟨.mismatch m, r⟩
  | r => ⟨.mismatch m, r⟩

def listFault (m : Mismatch) (s : Bytes) : Fault :=
  ⟨.mismatch m, (skipSpace s).tail⟩

def readEnd (s : Bytes) : Except Fault Unit :=
  match skipSpace s with
  | [] => .ok ()
  | _ :: r => .error ⟨.trailingCharacters, r⟩

inductive Frame where
  | list
  | object
  deriving DecidableEq, Repr

def Frame.eof : Frame → Fault
  | list => ⟨.eofInList, []⟩
  | object => ⟨.eofInObject, []⟩

def Frame.commaOrEnd : Frame → Cause
  | list => .expectedListCommaOrEnd
  | object => .expectedObjectCommaOrEnd

def Frame.close : Frame → UInt8
  | list => 0x5D
  | object => 0x7D

/-- What may come next inside the open brackets: a value, the first element or member of the
innermost bracket, or what follows a value. -/
inductive Due where
  | value
  | first
  | next
  deriving DecidableEq, Repr

def skipKey (frame : Frame) (s : Bytes) : Except Fault Bytes :=
  match frame with
  | .list => .ok s
  | .object =>
    match skipSpace s with
    | [] => .error ⟨.eofInObject, []⟩
    | b :: r =>
      if b = quoteMark then
        match skipText r with
        | .error f => .error f
        | .ok r => readColon r
      else .error ⟨.keyNotString, r⟩

def skipScalar : Bytes → Except Fault Bytes
  | [] => .error ⟨.eofInValue, []⟩
  | b :: r =>
    if b = 0x6E then readWord tailOfNull r
    else if b = 0x74 then readWord tailOfTrue r
    else if b = 0x66 then readWord tailOfFalse r
    else if b = 0x2D then skipNumber r
    else if isDigit b then skipNumber (b :: r)
    else if b = quoteMark then skipText r
    else .error ⟨.expectedValue, r⟩

theorem readColon_length {s r : Bytes} (h : readColon s = .ok r) : r.length < s.length := by
  unfold readColon at h
  have hs := skipSpace_length s
  split at h
  · simp at h
  · rename_i b t hb
    simp only [hb, List.length_cons] at hs
    split at h
    · simp only [Except.ok.injEq] at h
      rw [← h]
      omega
    · simp at h

theorem skipKey_length {frame : Frame} {s r : Bytes} (h : skipKey frame s = .ok r) :
    r.length ≤ s.length := by
  unfold skipKey at h
  split at h
  · simp_all
  · have hs := skipSpace_length s
    split at h
    · simp at h
    · rename_i b t hb
      simp only [hb, List.length_cons] at hs
      split at h
      · split at h
        · simp at h
        · rename_i ht
          have := skipText_length ht
          have := readColon_length h
          omega
      · simp at h

theorem skipScalar_length {s r : Bytes} (h : skipScalar s = .ok r) : r.length < s.length := by
  unfold skipScalar at h
  split at h
  · simp at h
  · simp only [List.length_cons]
    split at h
    · have := readWord_length h
      omega
    split at h
    · have := readWord_length h
      omega
    split at h
    · have := readWord_length h
      omega
    split at h
    · have := skipNumber_length h
      omega
    split at h
    · have := skipNumber_length h
      simpa using this
    split at h
    · have := skipText_length h
      omega
    · simp at h

def Due.rank : Due → Nat
  | value => 0
  | first => 1
  | next => 1

def skipValue (due : Due) (frames : List Frame) (s : Bytes) : Except Fault Bytes :=
  match due, frames with
  | .value, frames =>
    match h : skipSpace s with
    | [] => .error ⟨.eofInValue, []⟩
    | b :: r =>
      have : r.length < s.length := by
        have := skipSpace_length s
        simp only [h, List.length_cons] at this
        omega
      if b = 0x5B then skipValue .first (.list :: frames) r
      else if b = 0x7B then skipValue .first (.object :: frames) r
      else match hs : skipScalar (b :: r) with
        | .error f => .error f
        | .ok r' =>
          have : r'.length < s.length := by
            have := skipScalar_length hs
            have := skipSpace_length s
            simp_all only [List.length_cons]
            omega
          skipValue .next frames r'
  | .first, [] => .ok s
  | .first, frame :: frames =>
    match h : skipSpace s with
    | [] => .error frame.eof
    | b :: r =>
      have : r.length < s.length := by
        have := skipSpace_length s
        simp only [h, List.length_cons] at this
        omega
      if b = frame.close then skipValue .next frames r
      else match hk : skipKey frame (b :: r) with
        | .error f => .error f
        | .ok r' =>
          have : r'.length ≤ s.length := by
            have := skipKey_length hk
            have := skipSpace_length s
            simp_all only [List.length_cons]
            omega
          skipValue .value (frame :: frames) r'
  | .next, [] => .ok s
  | .next, frame :: frames =>
    match h : skipSpace s with
    | [] => .error frame.eof
    | b :: r =>
      have : r.length < s.length := by
        have := skipSpace_length s
        simp only [h, List.length_cons] at this
        omega
      if b = comma then
        match hk : skipKey frame r with
        | .error f => .error f
        | .ok r' =>
          have := skipKey_length hk
          skipValue .value (frame :: frames) r'
      else if b = frame.close then skipValue .next frames r
      else .error ⟨frame.commaOrEnd, r⟩
termination_by (s.length, due.rank)
decreasing_by all_goals (simp only [Due.rank, Prod.lex_def]; omega)

theorem skipValue_length {due : Due} {frames : List Frame} {s r : Bytes}
    (h : skipValue due frames s = .ok r) : r.length ≤ s.length := by
  fun_induction skipValue due frames s <;> first
    | (simp at h; done)
    | (simp only [Except.ok.injEq] at h; simp [h])
    | (rename_i ih; have := ih h; omega)

theorem readKey_length {first : Bool} {s r : Bytes} {k : String}
    (h : readKey first s = .ok (some k, r)) : r.length < s.length := by
  unfold readKey at h
  have hs := skipSpace_length s
  split at h
  · simp at h
  · rename_i b t hb
    simp only [hb, List.length_cons] at hs
    split at h
    · simp at h
    split at h
    · split at h
      · cases ht : readText t with
        | error f => simp [ht, Except.map] at h
        | ok u =>
          simp only [ht, Except.map, Except.ok.injEq, Prod.mk.injEq] at h
          have := readText_length ht
          rw [← h.2]
          omega
      · simp at h
    split at h
    · have hs' := skipSpace_length t
      split at h
      · simp at h
      · rename_i c u hc
        simp only [hc, List.length_cons] at hs'
        split at h
        · cases ht : readText u with
          | error f => simp [ht, Except.map] at h
          | ok v =>
            simp only [ht, Except.map, Except.ok.injEq, Prod.mk.injEq] at h
            have := readText_length ht
            rw [← h.2]
            omega
        · split at h <;> simp at h
    · simp at h

def readField (name : String) (old : Option β) (read : Reader β) (put : β → γ) :
    Reader γ := fun s =>
  match old with
  | some _ => .error (objectFault (.duplicateField name) s)
  | none =>
    match readColon s with
    | .error f => .error f
    | .ok s => (read s).map fun (v, r) => (put v, r)

def skipMember (s : Bytes) : Except Fault Bytes :=
  match readColon s with
  | .error f => .error f
  | .ok s => skipValue .value [] s

theorem readField_length {name : String} {old : Option β} {read : Reader β} {put : β → γ}
    (hr : ∀ s v r, read s = .ok (v, r) → r.length < s.length) {s r : Bytes} {v : γ}
    (h : readField name old read put s = .ok (v, r)) : r.length < s.length := by
  unfold readField at h
  split at h
  · simp at h
  · split at h
    · simp at h
    · rename_i t ht
      have := readColon_length ht
      cases hw : read t with
      | error f => simp [hw, Except.map] at h
      | ok u =>
        simp only [hw, Except.map, Except.ok.injEq, Prod.mk.injEq] at h
        have := hr _ _ _ hw
        rw [← h.2]
        omega

theorem skipMember_length {s r : Bytes} (h : skipMember s = .ok r) : r.length < s.length := by
  unfold skipMember at h
  split at h
  · simp at h
  · rename_i ht
    have := readColon_length ht
    have := skipValue_length h
    omega

def readMembers (member : γ → String → Reader γ)
    (shrinks : ∀ f key s f' r, member f key s = .ok (f', r) → r.length < s.length)
    (first : Bool) (f : γ) (s : Bytes) : Except Fault (γ × Bytes) :=
  match hk : readKey first s with
  | .error e => .error e
  | .ok (none, r) => .ok (f, r)
  | .ok (some key, r) =>
    match hm : member f key r with
    | .error e => .error e
    | .ok (f', r') =>
      have := readKey_length hk
      have := shrinks _ _ _ _ _ hm
      readMembers member shrinks false f' r'
termination_by s.length

def readPlace (place : Nat) (expected : String) (read : Reader β) : Reader β := fun s =>
  match readElement (place == 0) s with
  | .error f => .error f
  | .ok none => .error (listFault (.wrongLength place expected) s)
  | .ok (some s) => read s

def readAll (read : Reader α) (input : Bytes) : Except Complaint α :=
  match read input with
  | .error f => .error (f.complaint input)
  | .ok (v, r) =>
    match readEnd r with
    | .error f => .error (f.complaint input)
    | .ok () => .ok v

end CardDesk.Json
