import CardDesk.Proofs.Json.Items

namespace CardDesk.Json

variable {α : Type}

theorem eq_of_append_eq {p : UInt8 → Bool} {xs ys s t : Bytes} (hxs : ∀ b ∈ xs, p b = true)
    (hys : ∀ b ∈ ys, p b = true) (hs : ∀ b ∈ s.head?, p b = false)
    (ht : ∀ b ∈ t.head?, p b = false) (h : xs ++ s = ys ++ t) : xs = ys ∧ s = t := by
  have hstop {t : Bytes} (ht : ∀ b ∈ t.head?, p b = false) : t.takeWhile p = [] := by
    cases t with
    | nil => rfl
    | cons b t => simp [ht b rfl]
  have htake := congrArg (List.takeWhile p) h
  rw [List.takeWhile_append_of_pos hxs, List.takeWhile_append_of_pos hys, hstop hs, hstop ht,
    List.append_nil, List.append_nil] at htake
  subst htake
  exact ⟨rfl, List.append_cancel_left h⟩

theorem head_of_digits {ds : Bytes} (h : Digits ds) (r : Bytes) :
    ∃ b ∈ (ds ++ r).head?, isDigit b = true := by
  obtain ⟨hne, hall⟩ := h
  cases ds with
  | nil => exact absurd rfl hne
  | cons b ds => exact ⟨b, rfl, isDigit_iff.mpr (hall b List.mem_cons_self)⟩

theorem digits_unambiguous {ds ds' r r' : Bytes} (hds : Digits ds) (hds' : Digits ds')
    (hr : ∀ b ∈ r.head?, isDigit b = false) (hr' : ∀ b ∈ r'.head?, isDigit b = false)
    (h : ds ++ r = ds' ++ r') : ds = ds' ∧ r = r' :=
  eq_of_append_eq (fun b hb => isDigit_iff.mpr (hds.2 b hb))
    (fun b hb => isDigit_iff.mpr (hds'.2 b hb)) hr hr' h

theorem isExponentMark_iff {b : UInt8} : isExponentMark b = true ↔ b = 0x65 ∨ b = 0x45 := by
  simp [isExponentMark]

namespace Literal

def fractionBytes (l : Literal) : Bytes :=
  l.fraction.elim [] (0x2E :: ·)

def exponentBytes (l : Literal) : Bytes :=
  l.exponent.elim [] fun x => x.1 ++ x.2

theorem bytes_eq (l : Literal) :
    l.bytes = (if l.negative then [0x2D] else []) ++
      (l.whole ++ (l.fractionBytes ++ l.exponentBytes)) := by
  rw [bytes, fractionBytes, exponentBytes, List.append_assoc, List.append_assoc]
  cases l.fraction <;> cases l.exponent <;> rfl

theorem exponentBytes_of_none {l : Literal} (h : l.exponent = none) : l.exponentBytes = [] := by
  rw [exponentBytes, h, Option.elim_none]

theorem exponentBytes_of_some {l : Literal} {mark ds : Bytes} (h : l.exponent = some (mark, ds)) :
    ∃ e sign, isExponentMark e = true ∧ mark = e :: sign ∧ (∀ b ∈ mark, (!isDigit b) = true) ∧
      l.exponentBytes = mark ++ ds := by
  have hmark := l.exponent_mark _ h
  have hbytes : l.exponentBytes = mark ++ ds := by rw [exponentBytes, h, Option.elim_some]
  simp only [List.mem_cons, List.not_mem_nil, or_false] at hmark
  rcases hmark with rfl | rfl | rfl | rfl | rfl | rfl <;>
    exact ⟨_, _, by decide, rfl, List.all_eq_true.mp (by decide), hbytes⟩

theorem exponentBytes_head (l : Literal) {r : Bytes} (hr : Delimited r) :
    ∀ b ∈ (l.exponentBytes ++ r).head?, isDigit b = false ∧ b ≠ 0x2E := by
  cases h : l.exponent with
  | none =>
    rw [exponentBytes_of_none h]
    exact fun b hb => ⟨(hr b hb).1, (hr b hb).2.1⟩
  | some x =>
    obtain ⟨e, sign, he, hmark, -, hbytes⟩ := exponentBytes_of_some h
    rw [hbytes, hmark]
    intro b hb
    cases hb
    rcases isExponentMark_iff.mp he with rfl | rfl <;> decide

theorem exponentBytes_unambiguous {l l' : Literal} {r r' : Bytes} (hr : Delimited r)
    (hr' : Delimited r') (h : l.exponentBytes ++ r = l'.exponentBytes ++ r') :
    l.exponent = l'.exponent ∧ r = r' := by
  -- A mark on one side only would be the first byte of what follows on the other.
  have hone {l l' : Literal} {r r' : Bytes} (hr : Delimited r) (hl : l.exponent = none)
      {x : Bytes × Bytes} (hl' : l'.exponent = some x)
      (h : l.exponentBytes ++ r = l'.exponentBytes ++ r') : False := by
    obtain ⟨e, sign, he, hmark, -, hbytes⟩ := exponentBytes_of_some hl'
    rw [exponentBytes_of_none hl, hbytes, hmark, List.nil_append] at h
    have := (hr e (by rw [h]; rfl)).2.2
    simp [he] at this
  cases hl : l.exponent with
  | none =>
    cases hl' : l'.exponent with
    | none =>
      rw [exponentBytes_of_none hl, exponentBytes_of_none hl'] at h
      exact ⟨rfl, h⟩
    | some x => exact (hone hr hl hl' h).elim
  | some x =>
    cases hl' : l'.exponent with
    | none => exact (hone hr' hl' hl h.symm).elim
    | some x' =>
      obtain ⟨mark, ds⟩ := x
      obtain ⟨mark', ds'⟩ := x'
      obtain ⟨-, -, -, -, hmark, hbytes⟩ := exponentBytes_of_some hl
      obtain ⟨-, -, -, -, hmark', hbytes'⟩ := exponentBytes_of_some hl'
      have hds := l.exponent_digits _ hl
      have hds' := l'.exponent_digits _ hl'
      have hfirst {ds : Bytes} (hds : Digits ds) (r : Bytes) :
          ∀ b ∈ (ds ++ r).head?, (!isDigit b) = false := by
        obtain ⟨d, hd, hdigit⟩ := head_of_digits hds r
        intro b hb
        cases Option.mem_unique hb hd
        simp [hdigit]
      rw [hbytes, hbytes', List.append_assoc, List.append_assoc] at h
      obtain ⟨rfl, h⟩ := eq_of_append_eq hmark hmark' (hfirst hds r) (hfirst hds' r') h
      obtain ⟨rfl, rfl⟩ :=
        digits_unambiguous hds hds' (fun b hb => (hr b hb).1) (fun b hb => (hr' b hb).1) h
      exact ⟨rfl, rfl⟩

theorem fractionBytes_head (l : Literal) {t : Bytes} (ht : ∀ b ∈ t.head?, isDigit b = false) :
    ∀ b ∈ (l.fractionBytes ++ t).head?, isDigit b = false := by
  rw [fractionBytes]
  cases l.fraction with
  | none => exact ht
  | some ds =>
    intro b hb
    cases hb
    decide

theorem fractionBytes_unambiguous {l l' : Literal} {t t' : Bytes}
    (ht : ∀ b ∈ t.head?, isDigit b = false ∧ b ≠ 0x2E)
    (ht' : ∀ b ∈ t'.head?, isDigit b = false ∧ b ≠ 0x2E)
    (h : l.fractionBytes ++ t = l'.fractionBytes ++ t') : l.fraction = l'.fraction ∧ t = t' := by
  rw [fractionBytes, fractionBytes] at h
  cases hl : l.fraction with
  | none =>
    cases hl' : l'.fraction with
    | none =>
      rw [hl, hl'] at h
      exact ⟨rfl, h⟩
    | some ds' =>
      rw [hl, hl', Option.elim_none, List.nil_append] at h
      exact absurd rfl (ht 0x2E (by rw [h]; rfl)).2
  | some ds =>
    cases hl' : l'.fraction with
    | none =>
      rw [hl, hl', Option.elim_none, List.nil_append] at h
      exact absurd rfl (ht' 0x2E (by rw [← h]; rfl)).2
    | some ds' =>
      rw [hl, hl'] at h
      obtain ⟨rfl, rfl⟩ := digits_unambiguous (l.fraction_digits _ hl) (l'.fraction_digits _ hl')
        (fun b hb => (ht b hb).1) (fun b hb => (ht' b hb).1) (List.cons.inj h).2
      exact ⟨rfl, rfl⟩

theorem sign_unambiguous {l l' : Literal} {t t' : Bytes}
    (h : (if l.negative then [0x2D] else []) ++ (l.whole ++ t) =
      (if l'.negative then [0x2D] else []) ++ (l'.whole ++ t')) :
    l.negative = l'.negative ∧ l.whole ++ t = l'.whole ++ t' := by
  have hminus (l : Literal) (t u : Bytes) (h : l.whole ++ t = 0x2D :: u) : False := by
    obtain ⟨b, hb, hdigit⟩ := head_of_digits l.whole_digits t
    rw [h] at hb
    cases hb
    cases hdigit
  cases hl : l.negative <;> cases hl' : l'.negative <;> rw [hl, hl'] at h
  · exact ⟨rfl, h⟩
  · exact (hminus l t _ h).elim
  · exact (hminus l' t' _ h.symm).elim
  · exact ⟨rfl, (List.cons.inj h).2⟩

theorem unambiguous {l l' : Literal} {r r' : Bytes} (hr : Delimited r) (hr' : Delimited r')
    (h : l.bytes ++ r = l'.bytes ++ r') : l = l' ∧ r = r' := by
  simp only [bytes_eq, List.append_assoc] at h
  obtain ⟨hnegative, h⟩ := sign_unambiguous h
  have hexponent := l.exponentBytes_head hr
  have hexponent' := l'.exponentBytes_head hr'
  obtain ⟨hwhole, h⟩ := digits_unambiguous l.whole_digits l'.whole_digits
    (l.fractionBytes_head fun b hb => (hexponent b hb).1)
    (l'.fractionBytes_head fun b hb => (hexponent' b hb).1) h
  obtain ⟨hfraction, h⟩ := fractionBytes_unambiguous hexponent hexponent' h
  obtain ⟨hexponent, rfl⟩ := exponentBytes_unambiguous hr hr' h
  cases l
  cases l'
  dsimp only at hnegative hwhole hfraction hexponent
  subst hnegative hwhole hfraction hexponent
  exact ⟨rfl, rfl⟩

end Literal

theorem TextWritten.unambiguous {t t' : String} {raw raw' r r' : Bytes} (h : TextWritten t raw)
    (h' : TextWritten t' raw') (heq : raw ++ r = raw' ++ r') : t = t' ∧ r = r' := by
  obtain ⟨h⟩ := h
  obtain ⟨h'⟩ := h'
  have hread := h.readText r
  simp only [List.cons_append, List.append_assoc, List.nil_append, List.cons.injEq,
    true_and] at heq
  rw [heq, h'.readText r'] at hread
  cases hread
  exact ⟨rfl, rfl⟩

theorem eq_of_blank_append {blank blank' s s' : Bytes} (hblank : Blank blank)
    (hblank' : Blank blank') (hs : skipSpace s = s) (hs' : skipSpace s' = s')
    (h : blank ++ s = blank' ++ s') : s = s' := by
  rw [← hs, ← skipSpace_append hblank, h, skipSpace_append hblank', hs']

def UnambiguousBelow (n : Nat) (P : α → Bytes → Prop) : Prop :=
  ∀ {a a' : α} {raw raw' r r' : Bytes}, raw.length < n → P a raw → P a' raw' → Delimited r →
    Delimited r' → raw ++ r = raw' ++ r' → a = a' ∧ r = r'

def OpensUnlike (close : UInt8) (P : α → Bytes → Prop) : Prop :=
  ∀ {a : α} {raw : Bytes}, P a raw → ∃ b t, raw = b :: t ∧ isSpace b = false ∧ b ≠ close

section Items

variable {P : α → Bytes → Prop} {n : Nat} {close : UInt8} {a a' : α} {as as' : List α}
  {raw raw' s s' : Bytes}

theorem skipSpace_close (h : close = 0x5D ∨ close = 0x7D) (s : Bytes) :
    skipSpace (close :: s) = close :: s := by
  apply skipSpace_cons
  rcases h with rfl | rfl <;> decide

theorem skipSpace_comma (s : Bytes) : skipSpace (0x2C :: s) = 0x2C :: s :=
  skipSpace_cons (by decide) s

theorem OpensUnlike.skipSpace (h : OpensUnlike close P) (hraw : P a raw) (s : Bytes) :
    Json.skipSpace (raw ++ s) = raw ++ s := by
  obtain ⟨b, t, rfl, hb, -⟩ := h hraw
  exact skipSpace_cons hb (t ++ s)

theorem Separated.unambiguous_first (hP : UnambiguousBelow n P) (hopens : OpensUnlike close P)
    (hclose : close = 0x5D ∨ close = 0x7D) (hn : raw.length < n)
    (h : Separated P (a :: as) raw) (h' : Separated P (a' :: as') raw')
    (heq : raw ++ close :: s = raw' ++ close :: s') :
    a = a' ∧ ∃ rest rest', rest.length ≤ raw.length ∧ Follows P as rest ∧ Follows P as' rest' ∧
      rest ++ close :: s = rest' ++ close :: s' := by
  obtain ⟨blank, item, rest, hblank, hitem, hrest, rfl⟩ := separated_cons_iff.mp h
  obtain ⟨blank', item', rest', hblank', hitem', hrest', rfl⟩ := separated_cons_iff.mp h'
  simp only [List.append_assoc] at heq
  have heq := eq_of_blank_append hblank hblank' (hopens.skipSpace hitem _)
    (hopens.skipSpace hitem' _) heq
  simp only [List.length_append] at hn
  obtain ⟨rfl, heq⟩ := hP (by omega) hitem hitem' (hrest.delimited hclose s)
    (hrest'.delimited hclose s') heq
  refine ⟨rfl, rest, rest', ?_, hrest, hrest', heq⟩
  simp only [List.length_append]
  omega

theorem Follows.unambiguous (hP : UnambiguousBelow n P) (hopens : OpensUnlike close P)
    (hclose : close = 0x5D ∨ close = 0x7D) (hn : raw.length < n) (h : Follows P as raw)
    (h' : Follows P as' raw') (heq : raw ++ close :: s = raw' ++ close :: s') :
    as = as' ∧ s = s' := by
  have hcomma : close ≠ 0x2C := by rcases hclose with rfl | rfl <;> decide
  induction as generalizing as' raw raw' with
  | nil =>
    have hblank := follows_nil_iff.mp h
    cases as' with
    | nil =>
      have heq := eq_of_blank_append hblank (follows_nil_iff.mp h') (skipSpace_close hclose s)
        (skipSpace_close hclose s') heq
      exact ⟨rfl, (List.cons.inj heq).2⟩
    | cons a' as' =>
      obtain ⟨blank, rest, hblank', -, rfl⟩ := follows_cons_iff.mp h'
      rw [List.append_assoc] at heq
      have heq := eq_of_blank_append hblank hblank' (skipSpace_close hclose s)
        (skipSpace_comma _) heq
      exact absurd (List.cons.inj heq).1 hcomma
  | cons a as ih =>
    obtain ⟨blank, rest, hblank, hrest, rfl⟩ := follows_cons_iff.mp h
    rw [List.append_assoc] at heq
    cases as' with
    | nil =>
      have heq := eq_of_blank_append hblank (follows_nil_iff.mp h') (skipSpace_comma _)
        (skipSpace_close hclose s') heq
      exact absurd (List.cons.inj heq).1.symm hcomma
    | cons a' as' =>
      obtain ⟨blank', rest', hblank', hrest', rfl⟩ := follows_cons_iff.mp h'
      rw [List.append_assoc] at heq
      have heq := eq_of_blank_append hblank hblank' (skipSpace_comma _) (skipSpace_comma _) heq
      simp only [List.length_append, List.length_cons] at hn
      obtain ⟨rfl, more, more', hle, hmore, hmore', heq⟩ :=
        hrest.unambiguous_first hP hopens hclose (by omega) hrest' (List.cons.inj heq).2
      obtain ⟨rfl, rfl⟩ := ih (by omega) hmore hmore' heq
      exact ⟨rfl, rfl⟩

theorem Separated.ne_blank (hopens : OpensUnlike close P) (hclose : close = 0x5D ∨ close = 0x7D)
    (h : Separated P (a :: as) raw) (hblank : Blank raw') :
    raw' ++ close :: s' ≠ raw ++ close :: s := by
  intro heq
  obtain ⟨before, item, rest, hbefore, hitem, -, rfl⟩ := separated_cons_iff.mp h
  simp only [List.append_assoc] at heq
  have heq := eq_of_blank_append hblank hbefore (skipSpace_close hclose s')
    (hopens.skipSpace hitem _) heq
  obtain ⟨b, t, rfl, -, hne⟩ := hopens hitem
  exact hne (List.cons.inj heq).1.symm

theorem Inside.cases (h : Inside P as raw) :
    as = [] ∧ Blank raw ∨ ∃ a rest, as = a :: rest ∧ Separated P (a :: rest) raw := by
  rcases h with h | h
  · cases as with
    | nil => cases h
    | cons a as => exact .inr ⟨a, as, rfl, h⟩
  · exact .inl h

theorem Inside.unambiguous {b : UInt8} (hP : UnambiguousBelow n P) (hopens : OpensUnlike close P)
    (hclose : close = 0x5D ∨ close = 0x7D) (hn : (b :: raw ++ [close]).length < n + 1)
    (h : Inside P as raw) (h' : Inside P as' raw')
    (heq : b :: raw ++ [close] ++ s = b :: raw' ++ [close] ++ s') : as = as' ∧ s = s' := by
  simp only [List.cons_append, List.append_assoc, List.nil_append, List.cons.injEq, true_and] at heq
  simp only [List.cons_append, List.length_cons, List.length_append] at hn
  obtain ⟨rfl, hblank⟩ | ⟨a, rest, rfl, hitems⟩ := h.cases
  · obtain ⟨rfl, hblank'⟩ | ⟨a', rest', rfl, hitems'⟩ := h'.cases
    · have heq := eq_of_blank_append hblank hblank' (skipSpace_close hclose s)
        (skipSpace_close hclose s') heq
      exact ⟨rfl, (List.cons.inj heq).2⟩
    · exact absurd heq (hitems'.ne_blank hopens hclose hblank)
  · obtain ⟨rfl, hblank'⟩ | ⟨a', rest', rfl, hitems'⟩ := h'.cases
    · exact absurd heq.symm (hitems.ne_blank hopens hclose hblank')
    · obtain ⟨rfl, more, more', hle, hmore, hmore', heq⟩ :=
        hitems.unambiguous_first hP hopens hclose (by omega) hitems' heq
      obtain ⟨rfl, rfl⟩ := hmore.unambiguous hP hopens hclose (by omega) hmore' heq
      exact ⟨rfl, rfl⟩

end Items

theorem Written.opensUnlike : OpensUnlike 0x5D Written := by
  intro v raw h
  obtain ⟨b, t, rfl, hspace, hclose, -⟩ := h.opens
  exact ⟨b, t, rfl, hspace, hclose⟩

theorem Membered.opensUnlike {W : α → Bytes → Prop} : OpensUnlike 0x7D (Membered W) := by
  rintro m raw ⟨⟨hkey⟩, -, -, -⟩
  exact ⟨_, _, rfl, by decide, by decide⟩

theorem MemberWritten.opensUnlike : OpensUnlike 0x7D MemberWritten :=
  membered_written ▸ Membered.opensUnlike

theorem Membered.unambiguousBelow {W : α → Bytes → Prop} {n : Nat} (h : UnambiguousBelow n W)
    (hopens : OpensUnlike 0x5D W) : UnambiguousBelow n (Membered W) := by
  rintro m m' raw raw' r r' hn ⟨hkey, hbefore, hafter, hv⟩ ⟨hkey', hbefore', hafter', hv'⟩ hr hr'
    heq
  have hcolon (s : Bytes) : skipSpace (0x3A :: s) = 0x3A :: s := skipSpace_cons (by decide) s
  simp only [List.append_assoc, List.cons_append] at heq
  obtain ⟨rfl, heq⟩ := hkey.unambiguous hkey' heq
  have heq := eq_of_blank_append hbefore hbefore' (hcolon _) (hcolon _) heq
  have heq := eq_of_blank_append hafter hafter' (hopens.skipSpace hv r)
    (hopens.skipSpace hv' r') (List.cons.inj heq).2
  simp only [List.length_append, List.length_cons] at hn
  obtain ⟨rfl, rfl⟩ := h (by omega) hv hv' hr hr' heq
  exact ⟨rfl, rfl⟩

theorem MemberWritten.unambiguousBelow {n : Nat} (h : UnambiguousBelow n Written) :
    UnambiguousBelow n MemberWritten :=
  membered_written ▸ Membered.unambiguousBelow h Written.opensUnlike

inductive Value.Kind where
  | null
  | bool
  | number
  | text
  | list
  | object

def Value.kind : Value → Kind
  | null => .null
  | bool _ => .bool
  | number _ => .number
  | text _ => .text
  | list _ => .list
  | object _ => .object

def Value.kindOf (b : UInt8) : Kind :=
  if b = 0x2D ∨ isDigit b then .number
  else if b = 0x22 then .text
  else if b = 0x5B then .list
  else if b = 0x7B then .object
  else if b = 0x6E then .null
  else .bool

theorem Written.kind {v : Value} {raw : Bytes} (h : Written v raw) :
    ∃ b t, raw = b :: t ∧ Value.kindOf b = v.kind := by
  cases h with
  | number l =>
    obtain ⟨b, hb, hdigit⟩ := head_of_digits l.whole_digits (l.fractionBytes ++ l.exponentBytes)
    rw [l.bytes_eq]
    cases l.negative with
    | true => exact ⟨_, _, rfl, if_pos (.inl rfl)⟩
    | false =>
      obtain ⟨t, ht⟩ := List.head?_eq_some_iff.mp hb
      exact ⟨b, t, ht, if_pos (.inr hdigit)⟩
  | text h =>
    cases h
    exact ⟨_, _, rfl, rfl⟩
  | _ => exact ⟨_, _, rfl, rfl⟩

theorem written_unambiguousBelow (n : Nat) : UnambiguousBelow n Written := by
  -- Values stand in the lists of items of other values, so that the induction is on their length.
  induction n with
  | zero =>
    intro v v' raw raw' r r' hn
    cases hn
  | succ n ih =>
    intro v v' raw raw' r r' hn h h' hr hr' heq
    obtain ⟨b, t, hraw, hb⟩ := h.kind
    obtain ⟨b', t', hraw', hb'⟩ := h'.kind
    have hkind : v.kind = v'.kind := by
      rw [hraw, hraw'] at heq
      rw [← hb, ← hb', (List.cons.inj heq).1]
    cases v <;> cases v' <;> simp only [Value.kind, reduceCtorEq] at hkind
    case null.null =>
      cases h
      cases h'
      exact ⟨rfl, List.append_cancel_left heq⟩
    case bool.bool =>
      cases h <;> cases h' <;> simp at heq <;> exact ⟨rfl, heq⟩
    case number.number l l' =>
      cases h
      cases h'
      obtain ⟨rfl, rfl⟩ := Literal.unambiguous hr hr' heq
      exact ⟨rfl, rfl⟩
    case text.text t t' =>
      cases h with
      | text h =>
        cases h' with
        | text h' =>
          obtain ⟨rfl, rfl⟩ := h.unambiguous h' heq
          exact ⟨rfl, rfl⟩
    case list.list vs vs' =>
      obtain ⟨body, rfl, hbody⟩ := written_list_iff_inside.mp h
      obtain ⟨body', rfl, hbody'⟩ := written_list_iff_inside.mp h'
      obtain ⟨rfl, rfl⟩ := hbody.unambiguous ih Written.opensUnlike (.inl rfl) hn hbody' heq
      exact ⟨rfl, rfl⟩
    case object.object ms ms' =>
      obtain ⟨body, rfl, hbody⟩ := written_object_iff.mp h
      obtain ⟨body', rfl, hbody'⟩ := written_object_iff.mp h'
      obtain ⟨rfl, rfl⟩ := Inside.unambiguous (MemberWritten.unambiguousBelow ih)
        MemberWritten.opensUnlike (.inr rfl) hn hbody hbody' heq
      exact ⟨rfl, rfl⟩

theorem Blank.delimited_alone {blank : Bytes} (h : Blank blank) : Delimited blank := by
  have hnil : Delimited [] := by simp [Delimited]
  simpa using h.delimited_append hnil

/-- A text that is one value is no other one. -/
theorem WrittenAlone.unique {v v' : Value} {input : Bytes} (h : WrittenAlone v input)
    (h' : WrittenAlone v' input) : v = v' := by
  obtain ⟨before, raw, after, hbefore, hraw, hafter, rfl⟩ := h
  obtain ⟨before', raw', after', hbefore', hraw', hafter', heq⟩ := h'
  simp only [List.append_assoc] at heq
  have heq := eq_of_blank_append hbefore hbefore' (Written.opensUnlike.skipSpace hraw _)
    (Written.opensUnlike.skipSpace hraw' _) heq
  exact (written_unambiguousBelow _ (Nat.lt_succ_self _) hraw hraw' hafter.delimited_alone
    hafter'.delimited_alone heq).1

end CardDesk.Json
