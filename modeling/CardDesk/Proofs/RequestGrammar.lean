import CardDesk.Proofs.Json.Items
import CardDesk.Proofs.Keys
import CardDesk.Proofs.Passes
import CardDesk.Request

namespace CardDesk.Request

open Json

/-- The request that a value stands for: an object whose members are told by their keys, or a list
whose elements are told by their places. -/
inductive Denotes : Value → Request → Prop
  | object {ms : List (String × Value)} {op : Value} {q : Request}
    (hknown : ∀ m ∈ ms, m.1 ∈ ["id", "name", "department", "type", "op"])
    (hdistinct : (ms.map Prod.fst).Nodup)
    (hid : Value.Optionally Value.IsInteger (ms.lookup "id") q.id)
    (hname : Value.Optionally Value.IsText (ms.lookup "name") q.name)
    (hdepartment : Value.Optionally Value.IsText (ms.lookup "department") q.department)
    (hlabel : Value.Optionally Value.IsText (ms.lookup "type") q.label)
    (hlookup : ms.lookup "op" = some op) (hop : op.IsText q.op) : Denotes (.object ms) q
  | list {id name department label op : Value} {q : Request}
    (hid : Value.Optionally Value.IsInteger (some id) q.id)
    (hname : Value.Optionally Value.IsText (some name) q.name)
    (hdepartment : Value.Optionally Value.IsText (some department) q.department)
    (hlabel : Value.Optionally Value.IsText (some label) q.label)
    (hop : op.IsText q.op) : Denotes (.list [id, name, department, label, op]) q

inductive Gathered (f : Fields) : String × Value → Fields → Prop
  | id {v : Value} {x : Option Int32} (hf : f.id = none)
    (h : Value.Optionally Value.IsInteger (some v) x) : Gathered f ("id", v) { f with id := some x }
  | name {v : Value} {x : Option String} (hf : f.name = none)
    (h : Value.Optionally Value.IsText (some v) x) :
    Gathered f ("name", v) { f with name := some x }
  | department {v : Value} {x : Option String} (hf : f.department = none)
    (h : Value.Optionally Value.IsText (some v) x) :
    Gathered f ("department", v) { f with department := some x }
  | label {v : Value} {x : Option String} (hf : f.label = none)
    (h : Value.Optionally Value.IsText (some v) x) :
    Gathered f ("type", v) { f with label := some x }
  | op {v : Value} {x : String} (hf : f.op = none) (h : v.IsText x) :
    Gathered f ("op", v) { f with op := some x }

theorem readOptionalInt32_reads :
    Reads (readOptional readInt32) fun v x => Value.Optionally Value.IsInteger (some v) x :=
  readInt32_reads.optional fun _ h => h

theorem readOptionalString_reads :
    Reads readOptionalString fun v x => Value.Optionally Value.IsText (some v) x :=
  (readString_reads _).optional fun _ h => h

theorem readMember_reads : ReadsMember Written readMember Gathered where
  sound := by
    intro f f' key s r h
    unfold readMember at h
    split at h
    · subst key
      exact readOptionalInt32_reads.readField_sound h fun v x hf hx => .id hf hx
    split at h
    · subst key
      exact readOptionalString_reads.readField_sound h fun v x hf hx => .name hf hx
    split at h
    · subst key
      exact readOptionalString_reads.readField_sound h fun v x hf hx => .department hf hx
    split at h
    · subst key
      exact readOptionalString_reads.readField_sound h fun v x hf hx => .label hf hx
    split at h
    · subst key
      exact (readString_reads _).readField_sound h fun v x hf hx => .op hf hx
    · cases h
  complete := by
    intro f f' key v before after raw r hbefore hafter hraw h hr
    cases h with
    | id hf hx =>
      rw [readMember, if_pos rfl]
      exact readOptionalInt32_reads.readField_complete hf hbefore hafter hraw hx hr
    | name hf hx =>
      rw [readMember, if_neg (by decide), if_pos rfl]
      exact readOptionalString_reads.readField_complete hf hbefore hafter hraw hx hr
    | department hf hx =>
      rw [readMember, if_neg (by decide), if_neg (by decide), if_pos rfl]
      exact readOptionalString_reads.readField_complete hf hbefore hafter hraw hx hr
    | label hf hx =>
      rw [readMember, if_neg (by decide), if_neg (by decide), if_neg (by decide), if_pos rfl]
      exact readOptionalString_reads.readField_complete hf hbefore hafter hraw hx hr
    | op hf hx =>
      rw [readMember, if_neg (by decide), if_neg (by decide), if_neg (by decide),
        if_neg (by decide), if_pos rfl]
      exact (readString_reads _).readField_complete hf hbefore hafter hraw hx hr

section Members

variable {α : Type}

inductive Kept (P : Value → α → Prop) (old : Option α) : Option Value → Option α → Prop
  | unread : Kept P old none old
  | read {v : Value} {a : α} (hold : old = none) (h : P v a) : Kept P old (some v) (some a)

theorem Kept.of_some {P : Value → α → Prop} {a : α} {v : Option Value} {new : Option α}
    (h : Kept P (some a) v new) : v = none ∧ new = some a := by
  cases h with
  | unread => exact ⟨rfl, rfl⟩
  | read hold => cases hold

theorem Kept.of_read {P : Value → α → Prop} {old new : Option α} {v : Value}
    (h : Kept P old (some v) new) : old = none ∧ ∃ a, P v a ∧ new = some a := by
  cases h with
  | read hold h => exact ⟨hold, _, h, rfl⟩

theorem Kept.of_free {P : Value → α → Prop} {a : α} {v : Option Value} {new : Option α}
    (hv : v = none) (hnew : new = some a) : Kept P (some a) v new := by
  subst hv hnew
  exact .unread

structure Grown (f : Fields) (ms : List (String × Value)) (f' : Fields) : Prop where
  known : ∀ m ∈ ms, m.1 ∈ ["id", "name", "department", "type", "op"]
  distinct : (ms.map Prod.fst).Nodup
  id : Kept (fun v x => Value.Optionally Value.IsInteger (some v) x) f.id (ms.lookup "id") f'.id
  name : Kept (fun v x => Value.Optionally Value.IsText (some v) x) f.name (ms.lookup "name")
    f'.name
  department : Kept (fun v x => Value.Optionally Value.IsText (some v) x) f.department
    (ms.lookup "department") f'.department
  label : Kept (fun v x => Value.Optionally Value.IsText (some v) x) f.label (ms.lookup "type")
    f'.label
  op : Kept Value.IsText f.op (ms.lookup "op") f'.op

theorem Grown.cons {f f' f'' : Fields} {m : String × Value} {ms : List (String × Value)}
    (h : Gathered f m f') (hms : Grown f' ms f'') : Grown f (m :: ms) f'' := by
  have hknown : ∀ n ∈ m :: ms, n.1 ∈ ["id", "name", "department", "type", "op"] := by
    rw [List.forall_mem_cons]
    refine ⟨?_, hms.known⟩
    cases h <;> simp
  have hfree : ms.lookup m.1 = none := by
    cases h with
    | id => exact hms.id.of_some.1
    | name => exact hms.name.of_some.1
    | department => exact hms.department.of_some.1
    | label => exact hms.label.of_some.1
    | op => exact hms.op.of_some.1
  have hdistinct := List.nodup_cons.mpr ⟨Keyed.not_mem_keys_iff.mpr hfree, hms.distinct⟩
  obtain ⟨-, -, hid, hname, hdepartment, hlabel, hop⟩ := hms
  cases h with
  | id hf hx =>
    exact ⟨hknown, hdistinct, hid.of_some.2 ▸ .read hf hx, hname, hdepartment, hlabel, hop⟩
  | name hf hx =>
    exact ⟨hknown, hdistinct, hid, hname.of_some.2 ▸ .read hf hx, hdepartment, hlabel, hop⟩
  | department hf hx =>
    exact ⟨hknown, hdistinct, hid, hname, hdepartment.of_some.2 ▸ .read hf hx, hlabel, hop⟩
  | label hf hx =>
    exact ⟨hknown, hdistinct, hid, hname, hdepartment, hlabel.of_some.2 ▸ .read hf hx, hop⟩
  | op hf hx =>
    exact ⟨hknown, hdistinct, hid, hname, hdepartment, hlabel, hop.of_some.2 ▸ .read hf hx⟩

theorem Grown.exists_gathered {f f'' : Fields} {m : String × Value} {ms : List (String × Value)}
    (h : Grown f (m :: ms) f'') : ∃ f', Gathered f m f' ∧ Grown f' ms f'' := by
  obtain ⟨key, v⟩ := m
  obtain ⟨hkey, hknown⟩ := List.forall_mem_cons.mp h.known
  obtain ⟨hnotin, hdistinct⟩ := List.nodup_cons.mp h.distinct
  have hfree := Keyed.not_mem_keys_iff.mp hnotin
  obtain ⟨-, -, hid, hname, hdepartment, hlabel, hop⟩ := h
  simp only [List.mem_cons, List.not_mem_nil, or_false] at hkey
  rcases hkey with rfl | rfl | rfl | rfl | rfl
  · obtain ⟨hf, x, hx, hnew⟩ := Kept.of_read hid
    exact ⟨_, .id hf hx, hknown, hdistinct, .of_free hfree hnew, hname, hdepartment, hlabel, hop⟩
  · obtain ⟨hf, x, hx, hnew⟩ := Kept.of_read hname
    exact ⟨_, .name hf hx, hknown, hdistinct, hid, .of_free hfree hnew, hdepartment, hlabel, hop⟩
  · obtain ⟨hf, x, hx, hnew⟩ := Kept.of_read hdepartment
    exact ⟨_, .department hf hx, hknown, hdistinct, hid, hname, .of_free hfree hnew, hlabel, hop⟩
  · obtain ⟨hf, x, hx, hnew⟩ := Kept.of_read hlabel
    exact ⟨_, .label hf hx, hknown, hdistinct, hid, hname, hdepartment, .of_free hfree hnew, hop⟩
  · obtain ⟨hf, x, hx, hnew⟩ := Kept.of_read hop
    exact ⟨_, .op hf hx, hknown, hdistinct, hid, hname, hdepartment, hlabel, .of_free hfree hnew⟩

theorem gathers_iff {f f' : Fields} {ms : List (String × Value)} :
    Gathers Gathered f ms f' ↔ Grown f ms f' := by
  constructor
  · intro h
    induction h with
    | nil f => exact ⟨by simp, List.nodup_nil, .unread, .unread, .unread, .unread, .unread⟩
    | cons hm _ ih => exact .cons hm ih
  · intro h
    induction ms generalizing f with
    | nil =>
      obtain ⟨-, -, hid, hname, hdepartment, hlabel, hop⟩ := h
      have hff' : f = f' := by
        obtain ⟨id, name, department, label, op⟩ := f
        obtain ⟨id', name', department', label', op'⟩ := f'
        cases hid
        cases hname
        cases hdepartment
        cases hlabel
        cases hop
        rfl
      exact hff' ▸ .nil f
    | cons m ms ih =>
      obtain ⟨g, hm, hms⟩ := h.exists_gathered
      exact .cons hm (ih hms)

theorem kept_none_iff {P : Value → α → Prop} {v : Option Value} {x : Option α} :
    (∃ new, Kept (fun v x => Value.Optionally P (some v) x) none v new ∧ new.join = x) ↔
      Value.Optionally P v x := by
  constructor
  · rintro ⟨new, h, rfl⟩
    cases h with
    | unread => exact .missing
    | read _ h => exact h
  · intro h
    cases v with
    | none =>
      cases h
      exact ⟨none, .unread, rfl⟩
    | some v => exact ⟨some x, .read rfl h, rfl⟩

end Members

theorem denotes_object_iff {ms : List (String × Value)} {q : Request} :
    Denotes (.object ms) q ↔ ∃ f, Gathers Gathered {} ms f ∧ f.op = some q.op ∧
      f.id.join = q.id ∧ f.name.join = q.name ∧ f.department.join = q.department ∧
      f.label.join = q.label := by
  simp only [gathers_iff]
  constructor
  · intro h
    cases h with
    | @object _ op _ hknown hdistinct hid hname hdepartment hlabel hlookup hop =>
      obtain ⟨id, hid, hid'⟩ := kept_none_iff.mpr hid
      obtain ⟨name, hname, hname'⟩ := kept_none_iff.mpr hname
      obtain ⟨department, hdepartment, hdepartment'⟩ := kept_none_iff.mpr hdepartment
      obtain ⟨label, hlabel, hlabel'⟩ := kept_none_iff.mpr hlabel
      have hop : Kept Value.IsText none (ms.lookup "op") (some q.op) := by
        rw [hlookup]
        exact .read rfl hop
      exact ⟨⟨id, name, department, label, some q.op⟩,
        ⟨hknown, hdistinct, hid, hname, hdepartment, hlabel, hop⟩, rfl, hid', hname',
        hdepartment', hlabel'⟩
  · rintro ⟨f, ⟨hknown, hdistinct, hid, hname, hdepartment, hlabel, hkept⟩, hop, hid', hname',
      hdepartment', hlabel'⟩
    rw [hop] at hkept
    generalize hlookup : ms.lookup "op" = v at hkept
    cases hkept with
    | read _ hop =>
      exact .object hknown hdistinct (kept_none_iff.mp ⟨_, hid, hid'⟩)
        (kept_none_iff.mp ⟨_, hname, hname'⟩) (kept_none_iff.mp ⟨_, hdepartment, hdepartment'⟩)
        (kept_none_iff.mp ⟨_, hlabel, hlabel'⟩) hlookup hop

theorem ofFields_eq_ok_iff {f : Fields} {s : Bytes} {q : Request} :
    ofFields f s = .ok q ↔ f.op = some q.op ∧ f.id.join = q.id ∧ f.name.join = q.name ∧
      f.department.join = q.department ∧ f.label.join = q.label := by
  rw [ofFields]
  cases f.op with
  | none => simp
  | some op =>
    obtain ⟨id, name, department, label, op'⟩ := q
    simp only [Except.ok.injEq, Request.mk.injEq, Option.some.injEq]
    grind

theorem readObject_eq_ok_iff {s r : Bytes} {q : Request} :
    readObject s = .ok (q, r) ↔ ∃ ms body, Denotes (.object ms) q ∧
      Written (.object ms) (0x7B :: body ++ [0x7D]) ∧ s = body ++ 0x7D :: r := by
  constructor
  · intro h
    obtain ⟨⟨f, s'⟩, hmembers, h⟩ := bind_eq_ok_iff.mp h
    obtain ⟨q', hfields, h⟩ := bind_eq_ok_iff.mp h
    obtain ⟨r', hclose, h⟩ := bind_eq_ok_iff.mp h
    cases h
    obtain ⟨ms, body, t, hms, hbody, rfl, rfl⟩ := readMember_reads.readMembers_eq_ok_iff.mp hmembers
    rw [membered_written] at hbody
    have hend := closeObject_eq_ok_iff.mpr ⟨[], Blank.nil, (rfl : 0x7D :: t = [] ++ 0x7D :: t)⟩
    rw [hend] at hclose
    cases hclose
    exact ⟨ms, body, denotes_object_iff.mpr ⟨f, hms, ofFields_eq_ok_iff.mp hfields⟩,
      written_object_iff.mpr ⟨body, rfl, hbody⟩, rfl⟩
  · rintro ⟨ms, body, hq, hraw, rfl⟩
    obtain ⟨f, hms, hfields⟩ := denotes_object_iff.mp hq
    obtain ⟨body', heq, hbody⟩ := written_object_iff.mp hraw
    obtain rfl := List.append_cancel_right (List.cons.inj heq).2
    have hmembers : readMembers readMember (fun _ _ _ _ _ h => readMember_length h) true {}
        (body ++ 0x7D :: r) = .ok (f, 0x7D :: r) :=
      readMember_reads.readMembers_eq_ok_iff.mpr
        ⟨ms, body, r, hms, membered_written ▸ hbody, rfl, rfl⟩
    have hend := closeObject_eq_ok_iff.mpr ⟨[], Blank.nil, (rfl : 0x7D :: r = [] ++ 0x7D :: r)⟩
    refine bind_eq_ok_iff.mpr ⟨_, hmembers, ?_⟩
    refine bind_eq_ok_iff.mpr ⟨_, ofFields_eq_ok_iff.mpr hfields, ?_⟩
    exact bind_eq_ok_iff.mpr ⟨_, hend, rfl⟩

theorem readList_eq_ok_iff {s r : Bytes} {q : Request} :
    readList s = .ok (q, r) ↔ ∃ v vs body, Denotes (.list (v :: vs)) q ∧
      Separated Written (v :: vs) body ∧ s = body ++ 0x5D :: r := by
  constructor
  · intro h
    obtain ⟨⟨id, s₁⟩, hid, h⟩ := bind_eq_ok_iff.mp h
    obtain ⟨⟨name, s₂⟩, hname, h⟩ := bind_eq_ok_iff.mp h
    obtain ⟨⟨department, s₃⟩, hdepartment, h⟩ := bind_eq_ok_iff.mp h
    obtain ⟨⟨label, s₄⟩, hlabel, h⟩ := bind_eq_ok_iff.mp h
    obtain ⟨⟨op, s₅⟩, hop, h⟩ := bind_eq_ok_iff.mp h
    obtain ⟨r', hclose, h⟩ := bind_eq_ok_iff.mp h
    cases h
    obtain ⟨blank, hblank, hs₅⟩ := closeList_eq_ok_iff.mp hclose
    obtain ⟨v₅, raw₅, hv₅, hraw₅, hs₄⟩ :=
      (readString_reads _).next_sound hop hs₅ (.nothing hblank)
    obtain ⟨v₄, raw₄, hv₄, hraw₄, hs₃⟩ :=
      readOptionalString_reads.next_sound hlabel hs₄ hraw₅
    obtain ⟨v₃, raw₃, hv₃, hraw₃, hs₂⟩ :=
      readOptionalString_reads.next_sound hdepartment hs₃ hraw₄
    obtain ⟨v₂, raw₂, hv₂, hraw₂, hs₁⟩ :=
      readOptionalString_reads.next_sound hname hs₂ hraw₃
    obtain ⟨v₁, raw₁, hv₁, hraw₁, hs⟩ := readOptionalInt32_reads.first_sound hid hs₁ hraw₂
    exact ⟨v₁, _, raw₁, .list hv₁ hv₂ hv₃ hv₄ hv₅, hraw₁, hs⟩
  · rintro ⟨v, vs, body, hq, hraw, rfl⟩
    cases hq with
    | list hid hname hdepartment hlabel hop =>
      obtain ⟨raw₁, hraw₁, hs⟩ := readOptionalInt32_reads.first _ hid hraw r
      obtain ⟨raw₂, hraw₂, hs₁⟩ := readOptionalString_reads.next 0 _ hname hraw₁ r
      obtain ⟨raw₃, hraw₃, hs₂⟩ := readOptionalString_reads.next 1 _ hdepartment hraw₂ r
      obtain ⟨raw₄, hraw₄, hs₃⟩ := readOptionalString_reads.next 2 _ hlabel hraw₃ r
      obtain ⟨raw₅, hraw₅, hs₄⟩ := (readString_reads _).next 3 _ hop hraw₄ r
      have hend : closeList (raw₅ ++ 0x5D :: r) = .ok r :=
        closeList_eq_ok_iff.mpr ⟨raw₅, follows_nil_iff.mp hraw₅, rfl⟩
      refine bind_eq_ok_iff.mpr ⟨_, hs, ?_⟩
      refine bind_eq_ok_iff.mpr ⟨_, hs₁, ?_⟩
      refine bind_eq_ok_iff.mpr ⟨_, hs₂, ?_⟩
      refine bind_eq_ok_iff.mpr ⟨_, hs₃, ?_⟩
      refine bind_eq_ok_iff.mpr ⟨_, hs₄, ?_⟩
      exact bind_eq_ok_iff.mpr ⟨_, hend, rfl⟩

theorem read_eq_ok_iff {s r : Bytes} {q : Request} :
    read s = .ok (q, r) ↔ ∃ blank v raw, Blank blank ∧ Written v raw ∧ Denotes v q ∧
      s = blank ++ raw ++ r := by
  have hlist : isSpace 0x5B = false := by decide
  have hobject : isSpace 0x7B = false := by decide
  constructor
  · intro h
    obtain ⟨blank, hblank, hs⟩ := exists_skipSpace s
    rw [read] at h
    split at h
    · cases h
    rename_i b t hb
    rw [hb] at hs
    split at h
    · rename_i hopen
      obtain ⟨v, vs, body, hq, hbody, rfl⟩ := readList_eq_ok_iff.mp h
      refine ⟨blank, _, _, hblank, .list hbody, hq, ?_⟩
      rw [hs, hopen]
      simp
    split at h
    · rename_i hopen
      obtain ⟨ms, body, hq, hraw, rfl⟩ := readObject_eq_ok_iff.mp h
      refine ⟨blank, _, _, hblank, hraw, hq, ?_⟩
      rw [hs, hopen]
      simp
    · cases h
  · rintro ⟨blank, v, raw, hblank, hraw, hq, rfl⟩
    rw [read, List.append_assoc, skipSpace_append hblank]
    have hshape : (∃ ms, v = .object ms) ∨ ∃ x xs, v = .list (x :: xs) := by
      cases hq with
      | object => exact .inl ⟨_, rfl⟩
      | list => exact .inr ⟨_, _, rfl⟩
    rcases hshape with ⟨ms, rfl⟩ | ⟨x, xs, rfl⟩
    · obtain ⟨body, rfl, -⟩ := written_object_iff.mp hraw
      have hread : readObject (body ++ 0x7D :: r) = .ok (q, r) :=
        readObject_eq_ok_iff.mpr ⟨ms, body, hq, hraw, rfl⟩
      simpa [skipSpace_cons hobject] using hread
    · obtain ⟨body, rfl, hbody⟩ := written_list_iff.mp hraw
      have hread : readList (body ++ 0x5D :: r) = .ok (q, r) :=
        readList_eq_ok_iff.mpr ⟨x, xs, body, hq, hbody, rfl⟩
      simpa [skipSpace_cons hlist] using hread

/-- A text is read as a request if and only if it is one value of JSON that stands for it. -/
theorem ofJson_eq_ok_iff {input : Bytes} {q : Request} :
    ofJson input = .ok q ↔ ∃ v, WrittenAlone v input ∧ Denotes v q := by
  constructor
  · intro h
    rw [ofJson, readAll] at h
    split at h
    · cases h
    rename_i q' r hread
    split at h
    · cases h
    rename_i hend
    cases h
    obtain ⟨before, v, raw, hbefore, hraw, hq, rfl⟩ := read_eq_ok_iff.mp hread
    exact ⟨v, ⟨before, raw, r, hbefore, hraw, readEnd_eq_ok_iff.mp hend, rfl⟩, hq⟩
  · rintro ⟨v, ⟨before, raw, after, hbefore, hraw, hafter, rfl⟩, hq⟩
    have hread : read (before ++ raw ++ after) = .ok (q, after) :=
      read_eq_ok_iff.mpr ⟨before, v, raw, hbefore, hraw, hq, rfl⟩
    rw [ofJson, readAll, hread]
    dsimp only
    rw [readEnd_eq_ok_iff.mpr hafter]

end CardDesk.Request
