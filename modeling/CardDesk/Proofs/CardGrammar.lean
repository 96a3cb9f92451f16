import CardDesk.Card.Json
import CardDesk.Proofs.Json.Items

namespace CardDesk

open Json

namespace Category

theorem ofName?_eq_some_iff {name : String} {c : Category} :
    ofName? name = some c ↔ name = c.code := by
  unfold ofName?
  split <;> cases c <;> simp_all [code]

theorem named_eq_ok_iff {expected : String} {s r : Bytes} {c : Category} :
    named expected s = .ok (c, r) ↔ readString expected s = .ok (c.code, r) := by
  rw [named]
  cases readString expected s with
  | error f => simp
  | ok x =>
    obtain ⟨name, t⟩ := x
    simp only [Except.ok.injEq, Prod.mk.injEq, ← ofName?_eq_some_iff]
    cases ofName? name <;> simp

theorem readNull_eq_ok_iff {s r : Bytes} :
    readNull s = .ok ((), r) ↔ ∃ blank, Blank blank ∧ s = blank ++ 0x6E :: (tailOfNull ++ r) := by
  rw [readNull, ← skipSpace_eq_cons_iff (by decide)]
  cases skipSpace s with
  | nil => simp
  | cons b t =>
    rw [List.cons.injEq, ← readWord_eq_ok_iff]
    dsimp only
    split
    · cases readWord tailOfNull t <;> simp [Except.map, *]
    · simp [*]

inductive ToldBy : Value → Category → Prop
  | code (c : Category) : ToldBy (.text c.code) c
  | key (c : Category) : ToldBy (.object [(c.code, .null)]) c

theorem memberWritten_null_iff {key : String} {raw : Bytes} :
    MemberWritten (key, .null) raw ↔ ∃ text before after, TextWritten key text ∧ Blank before ∧
      Blank after ∧ raw = text ++ before ++ 0x3A :: after ++ 0x6E :: tailOfNull := by
  constructor
  · rintro ⟨hkey, hbefore, hafter, ⟨⟩⟩
    exact ⟨_, _, _, hkey, hbefore, hafter, rfl⟩
  · rintro ⟨text, before, after, hkey, hbefore, hafter, rfl⟩
    exact .mk hkey hbefore hafter .null

theorem readKeyed_iff {s t : Bytes} {c : Category} :
    (∃ r r' r'', named "variant identifier" s = .ok (c, r) ∧ readColon r = .ok r' ∧
      readNull r' = .ok ((), r'') ∧ skipSpace r'' = 0x7D :: t) ↔
    ∃ body, Separated MemberWritten [(c.code, .null)] body ∧ s = body ++ 0x7D :: t := by
  simp only [named_eq_ok_iff, readColon_eq_ok_iff, readNull_eq_ok_iff,
    skipSpace_eq_cons_iff (show isSpace 0x7D = false by decide)]
  constructor
  · rintro ⟨r, r', r'', hname, ⟨before, hbefore, rfl⟩, ⟨after, hafter, rfl⟩, ⟨rest, hrest, rfl⟩⟩
    obtain ⟨blank, raw, hblank, hraw, rfl⟩ := (readString_reads _).sound hname
    have hitem := memberWritten_null_iff.mpr
      ⟨raw, before, after, says_isText_iff.mp hraw, hbefore, hafter, rfl⟩
    refine ⟨_, .one hblank hitem hrest, ?_⟩
    simp
  · rintro ⟨body, hbody, rfl⟩
    obtain ⟨blank, item, rest, hblank, hitem, hrest, rfl⟩ := separated_cons_iff.mp hbody
    obtain ⟨text, before, after, htext, hbefore, hafter, rfl⟩ := memberWritten_null_iff.mp hitem
    have hcolon (u : Bytes) : Delimited (before ++ 0x3A :: u) := by
      apply hbefore.delimited_append
      intro b hb
      cases hb
      decide
    have hname := (readString_reads "variant identifier").complete hblank
      (says_isText_iff.mpr htext) (hcolon (after ++ 0x6E :: (tailOfNull ++ (rest ++ 0x7D :: t))))
    refine ⟨_, _, _, ?_, ⟨before, hbefore, rfl⟩, ⟨after, hafter, rfl⟩,
      ⟨rest, follows_nil_iff.mp hrest, rfl⟩⟩
    rw [← hname]
    simp

theorem read_reads : Reads read ToldBy where
  sound := by
    intro s r c h
    obtain ⟨blank, hblank, hs⟩ := exists_skipSpace s
    rw [read] at h
    split at h
    · cases h
    rename_i b t hb
    rw [hb] at hs
    split at h
    · obtain ⟨blank', raw, hblank', hraw, hbt⟩ :=
        (readString_reads _).sound (named_eq_ok_iff.mp h)
      refine ⟨blank ++ blank', raw, hblank.append hblank', ⟨_, .code c, .text ?_⟩, ?_⟩
      · exact says_isText_iff.mp hraw
      · rw [hs, hbt]
        simp
    split at h
    · rename_i hopen
      split at h
      · cases h
      rename_i c' r₁ hname
      split at h
      · cases h
      rename_i r₂ hcolon
      split at h
      · cases h
      rename_i r₃ hnull
      split at h
      · cases h
      rename_i d u hd
      split at h
      · rename_i hclose
        cases h
        rw [hclose] at hd
        obtain ⟨body, hbody, rfl⟩ := readKeyed_iff.mp ⟨r₁, r₂, r₃, hname, hcolon, hnull, hd⟩
        refine ⟨blank, _, hblank, ⟨_, .key c, .object hbody⟩, ?_⟩
        rw [hs, hopen]
        simp
      · cases h
    · cases h
  complete := by
    rintro blank raw r c hblank ⟨v, hv, hraw⟩ hr
    rw [read, List.append_assoc, skipSpace_append hblank]
    cases hv with
    | code =>
      have hquote : isSpace 0x22 = false := by decide
      have hsays : Says Value.IsText c.code raw := ⟨.text c.code, rfl, hraw⟩
      have hname : named "variant identifier" (raw ++ r) = .ok (c, r) :=
        named_eq_ok_iff.mpr ((readString_reads _).complete Blank.nil hsays hr)
      obtain ⟨htext⟩ := says_isText_iff.mp hsays
      simpa [skipSpace_cons hquote, quoteMark] using hname
    | key =>
      have hopen : isSpace 0x7B = false := by decide
      obtain ⟨body, rfl, hbody | ⟨⟨⟩, -⟩⟩ := written_object_iff.mp hraw
      obtain ⟨r₁, r₂, r₃, hname, hcolon, hnull, hclose⟩ :=
        readKeyed_iff.mpr ⟨body, hbody, (rfl : body ++ 0x7D :: r = _)⟩
      simp [skipSpace_cons hopen, quoteMark, hname, hcolon, hnull, hclose]

end Category

namespace Card

inductive Gathered (f : Fields) : String × Value → Fields → Prop
  | id {v : Value} {x : Int32} (hf : f.id = none) (h : v.IsInteger x) :
    Gathered f ("id", v) { f with id := some x }
  | name {v : Value} {x : String} (hf : f.name = none) (h : v.IsText x) :
    Gathered f ("name", v) { f with name := some x }
  | department {v : Value} {x : String} (hf : f.department = none) (h : v.IsText x) :
    Gathered f ("department", v) { f with department := some x }
  | category {v : Value} {x : Category} (hf : f.category = none) (h : Category.ToldBy v x) :
    Gathered f ("type", v) { f with category := some x }

theorem readMember_takes : TakesMember Written readMember Gathered where
  complete := by
    intro f f' key v before after raw r hbefore hafter hraw h hr
    cases h with
    | id hf hx =>
      rw [readMember, if_pos rfl]
      exact readInt32_reads.readField_complete hf hbefore hafter hraw hx hr
    | name hf hx =>
      rw [readMember, if_neg (by decide), if_pos rfl]
      exact (readString_reads _).readField_complete hf hbefore hafter hraw hx hr
    | department hf hx =>
      rw [readMember, if_neg (by decide), if_neg (by decide), if_pos rfl]
      exact (readString_reads _).readField_complete hf hbefore hafter hraw hx hr
    | category hf hx =>
      rw [readMember, if_neg (by decide), if_neg (by decide), if_neg (by decide), if_pos rfl]
      exact Category.read_reads.readField_complete hf hbefore hafter hraw hx hr

theorem ofJson_of_gathers {ms : List (String × Value)} {c : Card} {input : Bytes}
    (h : Gathers Gathered {} ms ⟨c.id, c.name, c.department, c.category⟩)
    (hinput : WrittenAlone (.object ms) input) : ofJson input = .ok c := by
  obtain ⟨before, raw, after, hbefore, hraw, hafter, rfl⟩ := hinput
  obtain ⟨body, rfl, hbody | ⟨rfl, -⟩⟩ := written_object_iff.mp hraw
  · have hopen : isSpace 0x7B = false := by decide
    have hmembers : readMembers readMember (fun _ _ _ _ _ h => readMember_length h) true {}
        (body ++ 0x7D :: after) = .ok (⟨c.id, c.name, c.department, c.category⟩, 0x7D :: after) :=
      (readMember_takes.readMembers_complete h after).1 (membered_written ▸ hbody)
    have hclose : closeObject (0x7D :: after) = .ok after :=
      closeObject_eq_ok_iff.mpr ⟨[], Blank.nil, rfl⟩
    have hread : readObject (body ++ 0x7D :: after) = .ok (c, after) := by
      rw [readObject, hmembers]
      simp [ofFields, hclose, bind, Except.bind, pure, Except.pure]
    have hend := readEnd_eq_ok_iff.mpr hafter
    have hone : read (before ++ (0x7B :: body ++ [0x7D]) ++ after) = .ok (c, after) := by
      rw [read, List.append_assoc, skipSpace_append hbefore]
      simpa [skipSpace_cons hopen] using hread
    rw [ofJson, readAll, hone]
    dsimp only
    rw [hend]
  · cases h

end Card

end CardDesk
