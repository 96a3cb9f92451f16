import CardDesk.Proofs.Json.Skipper
import CardDesk.Proofs.Passes
import CardDesk.Proofs.RoundTrip

namespace CardDesk

open Json

namespace Card

def fieldNames : List String :=
  ["id", "name", "department", "type"]

def ShapedAs (v raw : Bytes) : Prop :=
  v = raw ∧ Shape raw

inductive Taken (f : Fields) : String × Bytes → Fields → Prop
  | own {key : String} {v : Value} {raw : Bytes} {f' : Fields} (h : Gathered f (key, v) f')
    (hraw : Written v raw) : Taken f (key, raw) f'
  | foreign {key : String} {raw : Bytes} (hkey : key ∉ fieldNames) : Taken f (key, raw) f

theorem Gathered.mem_fieldNames {f f' : Fields} {m : String × Value} (h : Gathered f m f') :
    m.1 ∈ fieldNames := by
  cases h <;> simp [fieldNames]

theorem readMember_of_foreign {key : String} (hkey : key ∉ fieldNames) (f : Fields) (s : Bytes) :
    readMember f key s = (skipMember s).map fun r => (f, r) := by
  simp only [fieldNames, List.mem_cons, List.not_mem_nil, or_false, not_or] at hkey
  obtain ⟨hid, hname, hdepartment, htype⟩ := hkey
  rw [readMember, if_neg hid, if_neg hname, if_neg hdepartment, if_neg htype]

theorem skipMember_sound {s r : Bytes} (h : skipMember s = .ok r) :
    ∃ before after raw, Blank before ∧ Blank after ∧ Shape raw ∧
      s = before ++ 0x3A :: after ++ raw ++ r := by
  rw [skipMember] at h
  split at h
  · cases h
  rename_i t hcolon
  obtain ⟨before, hbefore, rfl⟩ := readColon_eq_ok_iff.mp hcolon
  obtain ⟨after, raw, hafter, hraw, rfl⟩ := skipValue_sound h
  exact ⟨before, after, raw, hbefore, hafter, hraw, by simp⟩

theorem skipMember_complete {before after raw r : Bytes} (hbefore : Blank before)
    (hafter : Blank after) (hraw : Shape raw) (hr : Delimited r) :
    skipMember (before ++ 0x3A :: after ++ raw ++ r) = .ok r := by
  have hcolon : readColon (before ++ 0x3A :: after ++ raw ++ r) = .ok (after ++ raw ++ r) :=
    readColon_eq_ok_iff.mpr ⟨before, hbefore, by simp⟩
  rw [skipMember, hcolon]
  exact hraw.skipValue hafter hr

theorem readMember_reads : ReadsMember ShapedAs readMember Taken where
  sound := by
    intro f f' key s r h
    by_cases hkey : key ∈ fieldNames
    · obtain ⟨v, before, after, raw, hbefore, hafter, hraw, hgathered, hs⟩ :
          ∃ v before after raw, Blank before ∧ Blank after ∧ Written v raw ∧
            Gathered f (key, v) f' ∧ s = before ++ 0x3A :: after ++ raw ++ r := by
        simp only [fieldNames, List.mem_cons, List.not_mem_nil, or_false] at hkey
        rcases hkey with rfl | rfl | rfl | rfl
        · rw [readMember, if_pos rfl] at h
          exact readInt32_reads.readField_sound h fun v x hf hx => .id hf hx
        · rw [readMember, if_neg (by decide), if_pos rfl] at h
          exact (readString_reads _).readField_sound h fun v x hf hx => .name hf hx
        · rw [readMember, if_neg (by decide), if_neg (by decide), if_pos rfl] at h
          exact (readString_reads _).readField_sound h fun v x hf hx => .department hf hx
        · rw [readMember, if_neg (by decide), if_neg (by decide), if_neg (by decide),
            if_pos rfl] at h
          exact Category.read_reads.readField_sound h fun v x hf hx => .category hf hx
      exact ⟨raw, before, after, raw, hbefore, hafter, ⟨rfl, hraw.shape⟩, .own hgathered hraw, hs⟩
    · rw [readMember_of_foreign hkey] at h
      obtain ⟨t, ht, hpair⟩ := map_eq_ok_iff.mp h
      cases hpair
      obtain ⟨before, after, raw, hbefore, hafter, hraw, hs⟩ := skipMember_sound ht
      exact ⟨raw, before, after, raw, hbefore, hafter, ⟨rfl, hraw⟩, .foreign hkey, hs⟩
  complete := by
    rintro f f' key v before after raw r hbefore hafter ⟨rfl, hshape⟩ h hr
    cases h with
    | own h hraw => exact readMember_takes.complete hbefore hafter hraw h hr
    | foreign hkey =>
      rw [readMember_of_foreign hkey, skipMember_complete hbefore hafter hshape hr]
      rfl

/-- A text that is an object with the given members, each value being given by its text. -/
def ObjectText (ms : List (String × Bytes)) (input : Bytes) : Prop :=
  ∃ before body after, Blank before ∧ Inside (Membered ShapedAs) ms body ∧ Blank after ∧
    input = before ++ (0x7B :: body ++ [0x7D]) ++ after

theorem shapedAs_opens : OpensUnlike 0x5D ShapedAs := by
  rintro v raw ⟨rfl, h⟩
  exact h.opens

theorem shapedAs_unambiguous (n : Nat) : UnambiguousBelow n ShapedAs := by
  rintro v v' raw raw' r r' - ⟨rfl, h⟩ ⟨rfl, h'⟩ hr hr' heq
  exact h.unambiguous h' hr hr' heq

theorem ObjectText.unique {ms ms' : List (String × Bytes)} {input : Bytes}
    (h : ObjectText ms input) (h' : ObjectText ms' input) : ms = ms' := by
  have hbrace : isSpace 0x7B = false := by decide
  have hopen (body after : Bytes) :
      skipSpace (0x7B :: body ++ [0x7D] ++ after) = 0x7B :: body ++ [0x7D] ++ after := by
    rw [List.cons_append, List.cons_append, skipSpace_cons hbrace]
  obtain ⟨before, body, after, hbefore, hbody, -, rfl⟩ := h
  obtain ⟨before', body', after', hbefore', hbody', -, heq⟩ := h'
  rw [List.append_assoc before, List.append_assoc before'] at heq
  have heq := eq_of_blank_append hbefore hbefore' (hopen body after) (hopen body' after') heq
  exact (Inside.unambiguous (Membered.unambiguousBelow (shapedAs_unambiguous _) shapedAs_opens)
    Membered.opensUnlike (.inr rfl) (Nat.lt_succ_self _) hbody hbody' heq).1

theorem membered_text {key value : String} (h : Shape (bytesOf value)) :
    Membered ShapedAs (key, bytesOf value) (bytesOf (quote key ++ ":" ++ value)) := by
  have hcolon : bytesOf ":" = [0x3A] := by decide
  have hmember := Membered.mk (W := ShapedAs) (quote_written key) Blank.nil Blank.nil ⟨rfl, h⟩
  rw [bytesOf_append, bytesOf_append, hcolon]
  simpa using hmember

theorem objectText_object {members : List (String × String)}
    (h : ∀ m ∈ members, Shape (bytesOf m.2)) :
    ObjectText (members.map fun m => (m.1, bytesOf m.2)) (bytesOf (object members)) := by
  have hopen : bytesOf "\x7b" = [0x7B] := by decide
  have hclose : bytesOf "\x7d" = [0x7D] := by decide
  have hinside : Inside (Membered ShapedAs) (members.map fun m => (m.1, bytesOf m.2))
      (bytesOf (",".intercalate (members.map fun m => quote m.1 ++ ":" ++ m.2))) := by
    apply inside_intercalate
    rw [List.forall₂_map_left_iff, List.forall₂_map_right_iff, List.forall₂_same]
    exact fun m hm => membered_text (h m hm)
  refine ⟨[], _, [], Blank.nil, hinside, Blank.nil, ?_⟩
  rw [object, bytesOf_append, bytesOf_append, hopen, hclose]
  simp

theorem ofFields_eq_ok_iff {f : Fields} {s : Bytes} {c : Card} :
    ofFields f s = .ok c ↔ f = ⟨c.id, c.name, c.department, c.category⟩ := by
  obtain ⟨id, name, department, category⟩ := f
  obtain ⟨id', name', department', category'⟩ := c
  cases id <;> cases name <;> cases department <;> cases category <;> simp [ofFields]

theorem readObject_eq_ok_iff {s r : Bytes} {c : Card} :
    readObject s = .ok (c, r) ↔ ∃ ms body,
      Gathers Taken {} ms ⟨c.id, c.name, c.department, c.category⟩ ∧
      Inside (Membered ShapedAs) ms body ∧ s = body ++ 0x7D :: r := by
  have hclose (t : Bytes) : closeObject (0x7D :: t) = .ok t :=
    closeObject_eq_ok_iff.mpr ⟨[], Blank.nil, rfl⟩
  constructor
  · intro h
    obtain ⟨⟨f, s'⟩, hmembers, h⟩ := bind_eq_ok_iff.mp h
    obtain ⟨c', hfields, h⟩ := bind_eq_ok_iff.mp h
    obtain ⟨r', hend, h⟩ := bind_eq_ok_iff.mp h
    cases h
    obtain ⟨ms, body, t, hms, hbody, rfl, rfl⟩ := readMember_reads.readMembers_eq_ok_iff.mp hmembers
    rw [hclose] at hend
    cases hend
    exact ⟨ms, body, ofFields_eq_ok_iff.mp hfields ▸ hms, hbody, rfl⟩
  · rintro ⟨ms, body, hms, hbody, rfl⟩
    refine bind_eq_ok_iff.mpr ⟨(⟨c.id, c.name, c.department, c.category⟩, 0x7D :: r), ?_, ?_⟩
    · exact readMember_reads.readMembers_eq_ok_iff.mpr ⟨ms, body, r, hms, hbody, rfl, rfl⟩
    refine bind_eq_ok_iff.mpr ⟨c, ofFields_eq_ok_iff.mpr rfl, ?_⟩
    exact bind_eq_ok_iff.mpr ⟨r, hclose r, rfl⟩

theorem ofJson_brace_eq_ok_iff {before s : Bytes} {c : Card} (hbefore : Blank before) :
    ofJson (before ++ 0x7B :: s) = .ok c ↔ ∃ ms, ObjectText ms (before ++ 0x7B :: s) ∧
      Gathers Taken {} ms ⟨c.id, c.name, c.department, c.category⟩ := by
  have hopen : isSpace 0x7B = false := by decide
  have hread : read (before ++ 0x7B :: s) = readObject s := by
    rw [read, skipSpace_append hbefore, skipSpace_cons hopen]
    simp
  rw [ofJson, readAll, hread]
  constructor
  · intro h
    split at h
    · cases h
    rename_i c' after hobject
    split at h
    · cases h
    rename_i hend
    cases h
    obtain ⟨ms, body, hms, hbody, rfl⟩ := readObject_eq_ok_iff.mp hobject
    exact ⟨ms, ⟨before, body, after, hbefore, hbody, readEnd_eq_ok_iff.mp hend, by simp⟩, hms⟩
  · rintro ⟨ms, ⟨before', body, after, hbefore', hbody, hafter, heq⟩, hms⟩
    rw [List.append_assoc] at heq
    have hs := eq_of_blank_append hbefore hbefore' (skipSpace_cons hopen s)
      (skipSpace_cons hopen _) heq
    obtain rfl : s = body ++ 0x7D :: after := by simpa using hs
    rw [readObject_eq_ok_iff.mpr ⟨ms, body, hms, hbody, rfl⟩]
    dsimp only
    rw [readEnd_eq_ok_iff.mpr hafter]

theorem ofJson_of_objectText {ms : List (String × Bytes)} {input : Bytes} {c : Card}
    (h : ObjectText ms input) :
    ofJson input = .ok c ↔ Gathers Taken {} ms ⟨c.id, c.name, c.department, c.category⟩ := by
  have hobject := h
  obtain ⟨before, body, after, hbefore, -, -, hinput⟩ := hobject
  obtain rfl : input = before ++ 0x7B :: (body ++ [0x7D] ++ after) := by simpa using hinput
  rw [ofJson_brace_eq_ok_iff hbefore]
  constructor
  · rintro ⟨ms', h', hms⟩
    exact h.unique h' ▸ hms
  · intro hms
    exact ⟨ms, h, hms⟩

/-- The second list of members is the first one with foreign members put in, at any places. -/
inductive Enlarged : List (String × Bytes) → List (String × Bytes) → Prop
  | nil : Enlarged [] []
  | keep {ms ms' : List (String × Bytes)} (m : String × Bytes) (h : Enlarged ms ms') :
    Enlarged (m :: ms) (m :: ms')
  | foreign {ms ms' : List (String × Bytes)} {m : String × Bytes} (hkey : m.1 ∉ fieldNames)
    (h : Enlarged ms ms') : Enlarged ms (m :: ms')

theorem enlarged_filter (ms : List (String × Bytes)) :
    Enlarged (ms.filter fun m => m.1 ∈ fieldNames) ms := by
  induction ms with
  | nil => exact .nil
  | cons m ms ih =>
    by_cases hkey : m.1 ∈ fieldNames
    · rw [List.filter_cons_of_pos (by simpa using hkey)]
      exact .keep m ih
    · rw [List.filter_cons_of_neg (by simpa using hkey)]
      exact .foreign hkey ih

theorem Taken.eq_of_foreign {f f' : Fields} {m : String × Bytes} (h : Taken f m f')
    (hkey : m.1 ∉ fieldNames) : f' = f := by
  cases h with
  | own h => exact absurd h.mem_fieldNames hkey
  | foreign => rfl

theorem Enlarged.gathers_iff {ms ms' : List (String × Bytes)} (h : Enlarged ms ms')
    {f f' : Fields} : Gathers Taken f ms f' ↔ Gathers Taken f ms' f' := by
  induction h generalizing f with
  | nil => rfl
  | keep m _ ih =>
    constructor
    · rintro ⟨⟩
      rename_i hm hrest
      exact .cons hm (ih.mp hrest)
    · rintro ⟨⟩
      rename_i hm hrest
      exact .cons hm (ih.mpr hrest)
  | @foreign ms ms' m hkey _ ih =>
    rw [ih]
    constructor
    · exact .cons (.foreign hkey)
    · rintro ⟨⟩
      rename_i hm hrest
      exact hm.eq_of_foreign hkey ▸ hrest

/-- Foreign members are passed over, whatever well-formed values they hold: an object that is read
as a card is read as the same one after any of them have been put in anywhere, and after any or all
of them have been taken out. -/
theorem foreign_members_ignored :
    (∀ v raw, Written v raw → Shape raw) ∧ ∀ input c, ofJson input = .ok c →
      (∃ before rest, Blank before ∧ input = before ++ 0x7B :: rest) →
      ∃ ms, ObjectText ms input ∧ (∀ ms', ObjectText ms' input → ms' = ms) ∧
        (∀ ms' input', Enlarged ms ms' ∨ Enlarged ms' ms → ObjectText ms' input' →
          ofJson input' = .ok c) ∧
        ∀ input', ObjectText (ms.filter fun m => m.1 ∈ fieldNames) input' →
          ofJson input' = .ok c := by
  refine ⟨fun _ _ => Written.shape, ?_⟩
  rintro input c h ⟨before, rest, hbefore, rfl⟩
  obtain ⟨ms, hms, hgathers⟩ := (ofJson_brace_eq_ok_iff hbefore).mp h
  have hsame : ∀ ms' input', Enlarged ms ms' ∨ Enlarged ms' ms → ObjectText ms' input' →
      ofJson input' = .ok c := by
    intro ms' input' henlarged hms'
    apply (ofJson_of_objectText hms').mpr
    rcases henlarged with henlarged | henlarged
    · exact henlarged.gathers_iff.mp hgathers
    · exact henlarged.gathers_iff.mpr hgathers
  refine ⟨ms, hms, fun ms' hms' => hms'.unique hms, hsame, fun input' => ?_⟩
  exact hsame _ input' (.inr (enlarged_filter ms))

theorem foreign_members_ignored_in_nested :
    let c : Card := ⟨7, "Ada", "CS", .teacher⟩
    let nested := "[\x7b\"id\":-1e999\x7d,\"\\ud800]\"]"
    let members := [("x", nested), ("id", "7"), ("name", quote "Ada"), ("x", nested),
      ("department", quote "CS"), ("type", quote "T"), ("", "null")]
    ofJson (bytesOf c.json) = .ok c ∧
      (∃ before rest, Blank before ∧ bytesOf c.json = before ++ 0x7B :: rest) ∧
      ofJson (bytesOf (object members)) = .ok c := by
  intro c nested members
  have hquote (t : String) : Shape (bytesOf (quote t)) := (Written.text (quote_written t)).shape
  have hid : Shape (bytesOf "7") := by
    have hbytes : bytesOf "7" = [0x37] := by decide
    rw [hbytes]
    exact (shape_cons_iff (by decide)).mpr (by cbv)
  have hnested : Shape (bytesOf nested) := by
    have hbytes : bytesOf nested = [0x5B, 0x7B, 0x22, 0x69, 0x64, 0x22, 0x3A, 0x2D, 0x31, 0x65,
      0x39, 0x39, 0x39, 0x7D, 0x2C, 0x22, 0x5C, 0x75, 0x64, 0x38, 0x30, 0x30, 0x5D, 0x22,
      0x5D] := by
      decide
    rw [hbytes, shape_cons_iff (by decide)]
    rw [@skipValue_open .list _ _ _ rfl, skipValue_first rfl (by decide) rfl,
      @skipValue_open .object _ _ _ rfl, skipValue_first rfl (by decide) (by cbv),
      skipValue_scalar rfl (by decide) (by decide) (by cbv), skipValue_close (by decide) rfl,
      skipValue_comma rfl rfl, skipValue_scalar rfl (by decide) (by decide) (by cbv),
      skipValue_close (by decide) rfl]
    cbv
  have hmembers : ∀ m ∈ members, Shape (bytesOf m.2) := by
    simp only [members, List.forall_mem_cons]
    exact ⟨hnested, hid, hquote _, hnested, hquote _, hquote _, .scalar .null, by simp⟩
  have hown : ∀ m ∈ [("id", "7"), ("name", quote "Ada"), ("department", quote "CS"),
      ("type", quote "T")], Shape (bytesOf m.2) := by
    simp only [List.forall_mem_cons]
    exact ⟨hid, hquote _, hquote _, hquote _, by simp⟩
  have hjson : c.json = object [("id", "7"), ("name", quote "Ada"), ("department", quote "CS"),
      ("type", quote "T")] := by
    have hnumber : toString c.id.toInt = "7" := by decide
    rw [json, hnumber]
    rfl
  have hopen : ∃ before rest, Blank before ∧ bytesOf c.json = before ++ 0x7B :: rest :=
    ⟨[], (bytesOf c.json).tail, Blank.nil, by decide +kernel⟩
  obtain ⟨ms, -, hunique, hsame, -⟩ := foreign_members_ignored.2 _ c c.ofJson_json hopen
  obtain rfl := hunique _ (hjson ▸ objectText_object hown)
  have hx : "x" ∉ fieldNames := by decide
  have hempty : "" ∉ fieldNames := by decide
  have henlarged : Enlarged _ (members.map fun m => (m.1, bytesOf m.2)) :=
    .foreign hx (.keep _ (.keep _ (.foreign hx (.keep _ (.keep _ (.foreign hempty .nil))))))
  exact ⟨c.ofJson_json, hopen, hsame _ _ (.inl henlarged) (objectText_object hmembers)⟩

end Card

end CardDesk
