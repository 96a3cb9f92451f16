import CardDesk.Proofs.Json.Readers

namespace CardDesk.Json

variable {α γ δ : Type}

inductive Follows (P : α → Bytes → Prop) : List α → Bytes → Prop
  | nothing {blank : Bytes} (h : Blank blank) : Follows P [] blank
  | more {as : List α} {blank raw : Bytes} (hblank : Blank blank) (h : Separated P as raw) :
    Follows P as (blank ++ 0x2C :: raw)

def Inside (P : α → Bytes → Prop) (as : List α) (body : Bytes) : Prop :=
  Separated P as body ∨ as = [] ∧ Blank body

section Items

variable {P : α → Bytes → Prop} {a : α} {as : List α} {raw : Bytes}

theorem separated_cons_iff :
    Separated P (a :: as) raw ↔ ∃ blank item rest, Blank blank ∧ P a item ∧ Follows P as rest ∧
      raw = blank ++ item ++ rest := by
  constructor
  · intro h
    cases h with
    | one hbefore h hafter => exact ⟨_, _, _, hbefore, h, .nothing hafter, rfl⟩
    | cons hbefore h hafter hrest =>
      exact ⟨_, _, _, hbefore, h, .more hafter hrest, List.append_assoc ..⟩
  · rintro ⟨blank, item, rest, hblank, h, hrest, rfl⟩
    cases hrest with
    | nothing hrest => exact .one hblank h hrest
    | more hafter hrest =>
      rw [← List.append_assoc]
      exact .cons hblank h hafter hrest

theorem follows_nil_iff : Follows P [] raw ↔ Blank raw := by
  constructor
  · intro h
    cases h with
    | nothing h => exact h
    | more _ h => cases h
  · exact .nothing

theorem follows_cons_iff :
    Follows P (a :: as) raw ↔ ∃ blank rest, Blank blank ∧ Separated P (a :: as) rest ∧
      raw = blank ++ 0x2C :: rest := by
  constructor
  · intro h
    cases h with
    | more hblank h => exact ⟨_, _, hblank, h, rfl⟩
  · rintro ⟨blank, rest, hblank, h, rfl⟩
    exact .more hblank h

theorem Blank.delimited_append {blank s : Bytes} (h : Blank blank) (hs : Delimited s) :
    Delimited (blank ++ s) := by
  intro c hc
  cases blank with
  | nil => exact hs c hc
  | cons d blank =>
    obtain rfl : d = c := Option.some.inj hc
    rcases h d List.mem_cons_self with rfl | rfl | rfl | rfl <;> decide

theorem Blank.delimited {blank : Bytes} (h : Blank blank) {b : UInt8}
    (hb : b = 0x2C ∨ b = 0x5D ∨ b = 0x7D) (r : Bytes) : Delimited (blank ++ b :: r) := by
  apply h.delimited_append
  intro c hc
  obtain rfl : b = c := Option.some.inj hc
  rcases hb with rfl | rfl | rfl <;> decide

theorem Follows.delimited (h : Follows P as raw) {b : UInt8} (hb : b = 0x5D ∨ b = 0x7D)
    (r : Bytes) : Delimited (raw ++ b :: r) := by
  cases h with
  | nothing h => exact h.delimited (.inr hb) r
  | more hblank h =>
    rw [List.append_assoc]
    exact hblank.delimited (.inl rfl) _

end Items

theorem readElement_first_sound {s t : Bytes} (h : readElement true s = .ok (some t)) :
    ∃ blank, Blank blank ∧ s = blank ++ t := by
  obtain ⟨blank, hblank, hs⟩ := exists_skipSpace s
  rw [readElement] at h
  split at h
  · cases h
  rename_i b r hb
  split at h
  · cases h
  · cases h
    exact ⟨blank, hblank, hb ▸ hs⟩

theorem readElement_next_sound {s t : Bytes} (h : readElement false s = .ok (some t)) :
    ∃ blank blank', Blank blank ∧ Blank blank' ∧ s = blank ++ 0x2C :: (blank' ++ t) := by
  obtain ⟨blank, hblank, hs⟩ := exists_skipSpace s
  rw [readElement] at h
  split at h
  · cases h
  rename_i b r hb
  rw [hb] at hs
  split at h
  · cases h
  split at h
  · cases ‹false = true›
  split at h
  · rename_i hcomma
    obtain ⟨blank', hblank', hr⟩ := exists_skipSpace r
    split at h
    · cases h
    rename_i c u hc
    split at h
    · cases h
    · cases h
      refine ⟨blank, blank', hblank, hblank', ?_⟩
      rw [hs, hcomma, ← hc, ← hr]
      rfl
  · cases h

theorem readElement_first {v : Value} {blank raw : Bytes} (hblank : Blank blank)
    (h : Written v raw) (r : Bytes) :
    readElement true (blank ++ raw ++ r) = .ok (some (raw ++ r)) := by
  obtain ⟨b, t, rfl, hspace, hclose, -⟩ := h.opens
  rw [readElement, List.append_assoc, skipSpace_append hblank, List.cons_append,
    skipSpace_cons hspace]
  simp [hclose]

theorem readElement_next {v : Value} {blank blank' raw : Bytes} (hblank : Blank blank)
    (hblank' : Blank blank') (h : Written v raw) (r : Bytes) :
    readElement false (blank ++ 0x2C :: (blank' ++ raw ++ r)) = .ok (some (raw ++ r)) := by
  obtain ⟨b, t, rfl, hspace, hclose, -⟩ := h.opens
  have hcomma : isSpace 0x2C = false := by decide
  rw [readElement, skipSpace_append hblank, skipSpace_cons hcomma]
  have hskip : skipSpace (blank' ++ b :: (t ++ r)) = b :: (t ++ r) := by
    rw [skipSpace_append hblank', skipSpace_cons hspace]
  simp [hskip, hclose, comma]

section Places

variable {read : Reader α} {P : Value → α → Prop} {s r t rest raw : Bytes} {a : α} {v : Value}
  {vs : List Value} {expected : String}

theorem Reads.first_sound (hread : Reads read P) (h : readPlace 0 expected read s = .ok (a, r))
    (hr : r = rest ++ t) (hrest : Follows Written vs rest) :
    ∃ v raw, P v a ∧ Separated Written (v :: vs) raw ∧ s = raw ++ t := by
  rw [readPlace] at h
  split at h
  · cases h
  · cases h
  rename_i u hu
  obtain ⟨blank, hblank, rfl⟩ := readElement_first_sound hu
  obtain ⟨blank', raw, hblank', ⟨v, hv, hraw⟩, rfl⟩ := hread.sound h
  refine ⟨v, _, hv, separated_cons_iff.mpr ⟨_, _, _, hblank.append hblank', hraw, hrest, rfl⟩, ?_⟩
  rw [hr]
  simp

theorem Reads.next_sound (hread : Reads read P) {place : Nat}
    (h : readPlace (place + 1) expected read s = .ok (a, r)) (hr : r = rest ++ t)
    (hrest : Follows Written vs rest) :
    ∃ v raw, P v a ∧ Follows Written (v :: vs) raw ∧ s = raw ++ t := by
  have hplace : (place + 1 == 0) = false := beq_eq_false_iff_ne.mpr (Nat.succ_ne_zero place)
  rw [readPlace, hplace] at h
  split at h
  · cases h
  · cases h
  rename_i u hu
  obtain ⟨blank, blank', hblank, hblank', rfl⟩ := readElement_next_sound hu
  obtain ⟨blank'', raw, hblank'', ⟨v, hv, hraw⟩, rfl⟩ := hread.sound h
  have hitems := separated_cons_iff.mpr ⟨_, _, _, hblank'.append hblank'', hraw, hrest, rfl⟩
  refine ⟨v, _, hv, .more hblank hitems, ?_⟩
  rw [hr]
  simp

theorem Reads.first (hread : Reads read P) (expected : String) (hv : P v a)
    (h : Separated Written (v :: vs) raw) (r : Bytes) : ∃ rest, Follows Written vs rest ∧
      readPlace 0 expected read (raw ++ 0x5D :: r) = .ok (a, rest ++ 0x5D :: r) := by
  obtain ⟨blank, item, rest, hblank, hitem, hrest, rfl⟩ := separated_cons_iff.mp h
  have hvalue := hread.complete Blank.nil ⟨v, hv, hitem⟩ (hrest.delimited (.inl rfl) r)
  refine ⟨rest, hrest, ?_⟩
  rw [readPlace, List.append_assoc _ rest, beq_self_eq_true, readElement_first hblank hitem]
  exact hvalue

theorem Reads.next (hread : Reads read P) (place : Nat) (expected : String) (hv : P v a)
    (h : Follows Written (v :: vs) raw) (r : Bytes) : ∃ rest, Follows Written vs rest ∧
      readPlace (place + 1) expected read (raw ++ 0x5D :: r) = .ok (a, rest ++ 0x5D :: r) := by
  obtain ⟨blank, items, hblank, hitems, rfl⟩ := follows_cons_iff.mp h
  obtain ⟨blank', item, rest, hblank', hitem, hrest, rfl⟩ := separated_cons_iff.mp hitems
  have hvalue := hread.complete Blank.nil ⟨v, hv, hitem⟩ (hrest.delimited (.inl rfl) r)
  refine ⟨rest, hrest, ?_⟩
  have hs : blank ++ 0x2C :: (blank' ++ item ++ rest) ++ 0x5D :: r =
      blank ++ 0x2C :: (blank' ++ item ++ (rest ++ 0x5D :: r)) := by simp
  have hplace : (place + 1 == 0) = false := beq_eq_false_iff_ne.mpr (Nat.succ_ne_zero place)
  rw [readPlace, hplace, hs, readElement_next hblank hblank' hitem]
  exact hvalue

end Places

theorem readKey_none_sound {first : Bool} {s r : Bytes} (h : readKey first s = .ok (none, r)) :
    ∃ blank t, Blank blank ∧ r = 0x7D :: t ∧ s = blank ++ r := by
  obtain ⟨blank, hblank, hs⟩ := exists_skipSpace s
  have hkey {u : Bytes} (hu : (readText u).map (fun x => (some x.1, x.2)) = .ok (none, r)) :
      False := by
    cases ht : readText u <;> rw [ht] at hu <;> cases hu
  rw [readKey] at h
  split at h
  · cases h
  rename_i b t hb
  rw [hb] at hs
  split at h
  · rename_i hclose
    cases h
    exact ⟨blank, t, hblank, by rw [hclose], hs⟩
  split at h
  · split at h
    · exact (hkey h).elim
    · cases h
  split at h
  · split at h
    · cases h
    split at h
    · exact (hkey h).elim
    split at h <;> cases h
  · cases h

theorem readKey_none (first : Bool) {blank : Bytes} (h : Blank blank) (r : Bytes) :
    readKey first (blank ++ 0x7D :: r) = .ok (none, 0x7D :: r) := by
  have hclose : isSpace 0x7D = false := by decide
  rw [readKey, skipSpace_append h, skipSpace_cons hclose]
  rfl

theorem map_key_eq_ok_iff {s r : Bytes} {key : String} :
    (readText s).map (fun x => (some x.1, x.2)) = .ok (some key, r) ↔
      readText s = .ok (key, r) := by
  cases readText s <;> simp [Except.map, Prod.ext_iff]

theorem readKey_first_eq_ok_iff {s r : Bytes} {key : String} :
    readKey true s = .ok (some key, r) ↔ ∃ blank raw, Blank blank ∧ TextWritten key raw ∧
      s = blank ++ raw ++ r := by
  constructor
  · intro h
    obtain ⟨blank, hblank, hs⟩ := exists_skipSpace s
    rw [readKey] at h
    split at h
    · cases h
    rename_i b t hb
    rw [hb] at hs
    split at h
    · cases h
    rw [if_pos rfl] at h
    split at h
    · rename_i hquote
      obtain ⟨raw, hraw, rfl⟩ := readText_eq_ok_iff.mp (map_key_eq_ok_iff.mp h)
      refine ⟨blank, _, hblank, .mk hraw, ?_⟩
      rw [hs, hquote]
      simp [quoteMark]
    · cases h
  · rintro ⟨blank, raw, hblank, ⟨hraw⟩, rfl⟩
    have htext := hraw.readText r
    have hquote : isSpace 0x22 = false := by decide
    rw [readKey, List.append_assoc, skipSpace_append hblank]
    simp [skipSpace_cons hquote, quoteMark, htext, Except.map]

theorem readKey_next_eq_ok_iff {s r : Bytes} {key : String} :
    readKey false s = .ok (some key, r) ↔ ∃ blank blank' raw, Blank blank ∧ Blank blank' ∧
      TextWritten key raw ∧ s = blank ++ 0x2C :: (blank' ++ raw ++ r) := by
  constructor
  · intro h
    obtain ⟨blank, hblank, hs⟩ := exists_skipSpace s
    rw [readKey] at h
    split at h
    · cases h
    rename_i b t hb
    rw [hb] at hs
    split at h
    · cases h
    rw [if_neg Bool.false_ne_true] at h
    split at h
    · rename_i hcomma
      obtain ⟨blank', hblank', ht⟩ := exists_skipSpace t
      split at h
      · cases h
      rename_i c u hc
      rw [hc] at ht
      split at h
      · rename_i hquote
        obtain ⟨raw, hraw, rfl⟩ := readText_eq_ok_iff.mp (map_key_eq_ok_iff.mp h)
        refine ⟨blank, blank', _, hblank, hblank', .mk hraw, ?_⟩
        rw [hs, ht, hquote, hcomma]
        simp [quoteMark, comma]
      split at h <;> cases h
    · cases h
  · rintro ⟨blank, blank', raw, hblank, hblank', ⟨hraw⟩, rfl⟩
    have htext := hraw.readText r
    have hquote : isSpace 0x22 = false := by decide
    have hcomma : isSpace 0x2C = false := by decide
    rw [readKey, skipSpace_append hblank, skipSpace_cons hcomma]
    simp [skipSpace_append hblank', skipSpace_cons hquote, quoteMark, comma, htext, Except.map]

inductive Membered (W : δ → Bytes → Prop) : String × δ → Bytes → Prop
  | mk {name : String} {v : δ} {key before after raw : Bytes} (hkey : TextWritten name key)
    (hbefore : Blank before) (hafter : Blank after) (h : W v raw) :
    Membered W (name, v) (key ++ before ++ 0x3A :: after ++ raw)

theorem membered_written : Membered Written = MemberWritten := by
  funext m raw
  rw [eq_iff_iff]
  constructor
  · rintro ⟨hkey, hbefore, hafter, h⟩
    exact .mk hkey hbefore hafter h
  · rintro ⟨hkey, hbefore, hafter, h⟩
    exact .mk hkey hbefore hafter h

inductive Gathers (gather : γ → α → γ → Prop) : γ → List α → γ → Prop
  | nil (f : γ) : Gathers gather f [] f
  | cons {f f' f'' : γ} {m : α} {ms : List α} (h : gather f m f')
    (hrest : Gathers gather f' ms f'') : Gathers gather f (m :: ms) f''

structure TakesMember (W : δ → Bytes → Prop) (member : γ → String → Reader γ)
    (gather : γ → String × δ → γ → Prop) : Prop where
  complete : ∀ {f f' : γ} {key : String} {v : δ} {before after raw r : Bytes}, Blank before →
    Blank after → W v raw → gather f (key, v) f' → Delimited r →
    member f key (before ++ 0x3A :: after ++ raw ++ r) = .ok (f', r)

structure ReadsMember (W : δ → Bytes → Prop) (member : γ → String → Reader γ)
    (gather : γ → String × δ → γ → Prop) : Prop extends TakesMember W member gather where
  sound : ∀ {f f' : γ} {key : String} {s r : Bytes}, member f key s = .ok (f', r) →
    ∃ v before after raw, Blank before ∧ Blank after ∧ W v raw ∧ gather f (key, v) f' ∧
      s = before ++ 0x3A :: after ++ raw ++ r

section Members

variable {W : δ → Bytes → Prop} {member : γ → String → Reader γ}
  {gather : γ → String × δ → γ → Prop}
  {shrinks : ∀ f key s f' r, member f key s = .ok (f', r) → r.length < s.length}

theorem readMembers_of_none {first : Bool} {f : γ} {s r : Bytes}
    (h : readKey first s = .ok (none, r)) : readMembers member shrinks first f s = .ok (f, r) := by
  rw [readMembers]
  split <;> simp_all

theorem readMembers_of_some {first : Bool} {f f' : γ} {key : String} {s s' s'' : Bytes}
    (hkey : readKey first s = .ok (some key, s')) (hm : member f key s' = .ok (f', s'')) :
    readMembers member shrinks first f s = readMembers member shrinks false f' s'' := by
  rw [readMembers]
  split
  · simp_all
  · simp_all
  · rename_i key' t hkey'
    rw [hkey] at hkey'
    cases hkey'
    split <;> simp_all

theorem ReadsMember.readMembers_sound (hmember : ReadsMember W member gather) {first : Bool}
    {f f' : γ} {s r : Bytes} (h : readMembers member shrinks first f s = .ok (f', r)) :
    ∃ ms raw t, Gathers gather f ms f' ∧ r = 0x7D :: t ∧ s = raw ++ r ∧
      if first then Separated (Membered W) ms raw ∨ ms = [] ∧ Blank raw
      else Follows (Membered W) ms raw := by
  fun_induction readMembers member shrinks first f s with
  | case1 => cases h
  | case2 first f s r' hkey =>
    cases h
    obtain ⟨blank, t, hblank, rfl, rfl⟩ := readKey_none_sound hkey
    refine ⟨[], blank, t, .nil _, rfl, rfl, ?_⟩
    cases first with
    | true => exact .inr ⟨rfl, hblank⟩
    | false => exact .nothing hblank
  | case3 => cases h
  | case4 first f s key s' hkey f' s'' hvalue _ _ ih =>
    obtain ⟨ms, rest, t, hms, rfl, rfl, hrest⟩ := ih h
    obtain ⟨v, before, after, raw, hbefore, hafter, hraw, hm, rfl⟩ := hmember.sound hvalue
    rw [if_neg Bool.false_ne_true] at hrest
    have hitem {text : Bytes} (htext : TextWritten key text) :
        Membered W (key, v) (text ++ before ++ 0x3A :: after ++ raw) :=
      .mk htext hbefore hafter hraw
    cases first with
    | true =>
      obtain ⟨blank, text, hblank, htext, rfl⟩ := readKey_first_eq_ok_iff.mp hkey
      have hitems := separated_cons_iff.mpr ⟨_, _, _, hblank, hitem htext, hrest, rfl⟩
      exact ⟨_, _, t, .cons hm hms, rfl, by simp, .inl hitems⟩
    | false =>
      obtain ⟨blank, blank', text, hblank, hblank', htext, rfl⟩ := readKey_next_eq_ok_iff.mp hkey
      have hitems := separated_cons_iff.mpr ⟨_, _, _, hblank', hitem htext, hrest, rfl⟩
      exact ⟨_, _, t, .cons hm hms, rfl, by simp, .more hblank hitems⟩

theorem TakesMember.readMembers_complete (hmember : TakesMember W member gather) {f f' : γ}
    {ms : List (String × δ)} (h : Gathers gather f ms f') {raw : Bytes} (r : Bytes) :
    (Separated (Membered W) ms raw →
      readMembers member shrinks true f (raw ++ 0x7D :: r) = .ok (f', 0x7D :: r)) ∧
    (Follows (Membered W) ms raw →
      readMembers member shrinks false f (raw ++ 0x7D :: r) = .ok (f', 0x7D :: r)) := by
  induction h generalizing raw with
  | nil f =>
    refine ⟨nofun, fun h => ?_⟩
    exact readMembers_of_none (readKey_none false (follows_nil_iff.mp h) r)
  | @cons f f' f'' m ms hm hms ih =>
    -- Once the key has been read, it does not matter whether it was the first.
    have hrest {first : Bool} {s before after value rest : Bytes} (hbefore : Blank before)
        (hafter : Blank after) (hvalue : W m.2 value)
        (hfollows : Follows (Membered W) ms rest)
        (hkey : readKey first s =
          .ok (some m.1, before ++ 0x3A :: after ++ value ++ (rest ++ 0x7D :: r))) :
        readMembers member shrinks first f s = .ok (f'', 0x7D :: r) := by
      have hread := hmember.complete hbefore hafter hvalue hm (hfollows.delimited (.inr rfl) r)
      rw [readMembers_of_some hkey hread]
      exact (@ih rest).2 hfollows
    constructor
    · intro h
      obtain ⟨blank, item, rest, hblank, hitem, hfollows, rfl⟩ := separated_cons_iff.mp h
      cases hitem with
      | mk htext hbefore hafter hvalue =>
        apply hrest hbefore hafter hvalue hfollows
        exact readKey_first_eq_ok_iff.mpr ⟨blank, _, hblank, htext, by simp⟩
    · intro h
      obtain ⟨blank, items, hblank, hitems, rfl⟩ := follows_cons_iff.mp h
      obtain ⟨blank', item, rest, hblank', hitem, hfollows, rfl⟩ := separated_cons_iff.mp hitems
      cases hitem with
      | mk htext hbefore hafter hvalue =>
        apply hrest hbefore hafter hvalue hfollows
        exact readKey_next_eq_ok_iff.mpr ⟨blank, blank', _, hblank, hblank', htext, by simp⟩

theorem written_object_iff {ms : List (String × Value)} {raw : Bytes} :
    Written (.object ms) raw ↔ ∃ body, raw = 0x7B :: body ++ [0x7D] ∧
      (Separated MemberWritten ms body ∨ ms = [] ∧ Blank body) := by
  constructor
  · intro h
    cases h with
    | emptyObject h => exact ⟨_, rfl, .inr ⟨rfl, h⟩⟩
    | object h => exact ⟨_, rfl, .inl h⟩
  · rintro ⟨body, rfl, h | ⟨rfl, h⟩⟩
    · exact .object h
    · exact .emptyObject h

theorem written_list_iff {v : Value} {vs : List Value} {raw : Bytes} :
    Written (.list (v :: vs)) raw ↔ ∃ body, raw = 0x5B :: body ++ [0x5D] ∧
      Separated Written (v :: vs) body := by
  constructor
  · intro h
    cases h with
    | list h => exact ⟨_, rfl, h⟩
  · rintro ⟨body, rfl, h⟩
    exact .list h

theorem written_list_iff_inside {vs : List Value} {raw : Bytes} :
    Written (.list vs) raw ↔ ∃ body, raw = 0x5B :: body ++ [0x5D] ∧ Inside Written vs body := by
  constructor
  · intro h
    cases h with
    | emptyList h => exact ⟨_, rfl, .inr ⟨rfl, h⟩⟩
    | list h => exact ⟨_, rfl, .inl h⟩
  · rintro ⟨body, rfl, h | ⟨rfl, h⟩⟩
    · exact .list h
    · exact .emptyList h

theorem ReadsMember.readMembers_eq_ok_iff (hmember : ReadsMember W member gather) {f f' : γ}
    {s r : Bytes} :
    readMembers member shrinks true f s = .ok (f', r) ↔ ∃ ms body t, Gathers gather f ms f' ∧
      (Separated (Membered W) ms body ∨ ms = [] ∧ Blank body) ∧ r = 0x7D :: t ∧
      s = body ++ r := by
  constructor
  · intro h
    obtain ⟨ms, body, t, hms, hr, hs, hbody⟩ := hmember.readMembers_sound h
    exact ⟨ms, body, t, hms, hbody, hr, hs⟩
  · rintro ⟨ms, body, t, hms, hbody | ⟨rfl, hbody⟩, rfl, rfl⟩
    · exact (hmember.readMembers_complete hms t).1 hbody
    · cases hms
      exact readMembers_of_none (readKey_none true hbody t)

end Members

section Fields

variable {read : Reader α} {P : Value → α → Prop} {name : String} {old : Option α} {put : α → γ}
  {r : Bytes}

theorem Reads.readField_sound (hread : Reads read P) {s : Bytes} {c : γ} {Q : Value → γ → Prop}
    (h : readField name old read put s = .ok (c, r))
    (hput : ∀ v a, old = none → P v a → Q v (put a)) :
    ∃ v before after raw, Blank before ∧ Blank after ∧ Written v raw ∧ Q v c ∧
      s = before ++ 0x3A :: after ++ raw ++ r := by
  rw [readField.eq_def] at h
  split at h
  · cases h
  split at h
  · cases h
  rename_i t hcolon
  obtain ⟨before, hbefore, rfl⟩ := readColon_eq_ok_iff.mp hcolon
  cases ha : read t with
  | error e =>
    rw [ha] at h
    cases h
  | ok ar =>
    rw [ha] at h
    cases h
    obtain ⟨after, raw, hafter, ⟨v, hv, hraw⟩, rfl⟩ := hread.sound ha
    exact ⟨v, before, after, raw, hbefore, hafter, hraw, hput v _ rfl hv, by simp⟩

theorem Reads.readField_complete (hread : Reads read P) (hold : old = none) {v : Value} {a : α}
    {before after raw : Bytes} (hbefore : Blank before) (hafter : Blank after)
    (hraw : Written v raw) (hv : P v a) (hr : Delimited r) :
    readField name old read put (before ++ 0x3A :: after ++ raw ++ r) = .ok (put a, r) := by
  have hvalue := hread.complete hafter ⟨v, hv, hraw⟩ hr
  have hcolon : readColon (before ++ 0x3A :: after ++ raw ++ r) = .ok (after ++ raw ++ r) :=
    readColon_eq_ok_iff.mpr ⟨before, hbefore, by simp⟩
  subst hold
  rw [readField, hcolon]
  exact congrArg (Except.map _) hvalue

end Fields

end CardDesk.Json
