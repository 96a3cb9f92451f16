import CardDesk.Proofs.Keys
import CardDesk.Toml.Read

namespace CardDesk

variable {α β : Type}

open Keyed

namespace Document

def Single : Document → Prop
  | table members => Distinct members
  | _ => True

end Document

namespace Scan

def Gives (P : α → Prop) (p : Scan α) : Prop :=
  ∀ s a r, p s = some (a, r) → P a

theorem Gives.pure {P : α → Prop} {a : α} (h : P a) : Gives P (pure a) := by
  rintro s b r hb
  cases hb
  exact h

theorem gives_true (p : Scan α) : Gives (fun _ => True) p :=
  fun _ _ _ _ => trivial

theorem Gives.bind {P : α → Prop} {Q : β → Prop} {p : Scan α} {f : α → Scan β} (hp : Gives P p)
    (hf : ∀ a, P a → Gives Q (f a)) : Gives Q (p >>= f) := by
  intro s b r h
  obtain ⟨⟨a, t⟩, ha, hb⟩ := Option.bind_eq_some_iff.mp h
  exact hf a (hp s a t ha) t b r hb

theorem Gives.orElse {P : α → Prop} {p q : Scan α} (hp : Gives P p) (hq : Gives P q) :
    Gives P (p <|> q) := by
  intro s a r h
  change (p s <|> q s) = some (a, r) at h
  cases hs : p s with
  | none =>
    rw [hs] at h
    exact hq s a r h
  | some x =>
    rw [hs] at h
    cases h
    exact hp s a r hs

theorem Gives.lift {P : α → Prop} {x : Option α} (h : ∀ a, x = some a → P a) :
    Gives P (StateT.lift x : Scan α) := by
  intro s a r ha
  obtain ⟨b, hb, hpair⟩ := Option.bind_eq_some_iff.mp ha
  cases hpair
  exact h a hb

theorem Gives.seqRight {P : β → Prop} {q : Scan β} (p : Scan α) (hq : Gives P q) :
    Gives P (p *> q) := by
  rw [seqRight_eq_bind]
  exact (gives_true p).bind fun _ _ => hq

theorem foldlM_invariant {P : β → Prop} {f : β → α → Option β}
    (hf : ∀ b a b', P b → f b a = some b' → P b') {as : List α} {b b' : β} (hb : P b)
    (h : as.foldlM f b = some b') : P b' := by
  induction as generalizing b with
  | nil => exact Option.some.inj h ▸ hb
  | cons a as ih =>
    obtain ⟨c, hc, hrest⟩ := Option.bind_eq_some_iff.mp h
    exact ih (hf b a c hb hc) hrest

theorem foldUpTo_invariant {P : α → Prop} {step : α → Scan α}
    (hstep : ∀ a, P a → Gives P (step a)) {fuel : Nat} {a b : α} {s : List Char} (ha : P a)
    (h : foldUpTo step fuel a s = some b) : P b := by
  induction fuel generalizing a s with
  | zero =>
    cases s with
    | nil => exact Option.some.inj h ▸ ha
    | cons c s => cases h
  | succ fuel ih =>
    cases s with
    | nil => exact Option.some.inj h ▸ ha
    | cons c s =>
      simp only [foldUpTo] at h
      split at h
      · cases h
      · rename_i a' r hr
        exact ih (hstep a ha _ a' r hr) h

end Scan

namespace Toml

open Scan

namespace Node

theorem documents_keys (members : Members) :
    (documents members).map Prod.fst = members.map Prod.fst := by
  induction members with
  | nil => rfl
  | cons m rest ih =>
    obtain ⟨k, n⟩ := m
    rw [documents, List.map_cons, List.map_cons, ih]

theorem mem_documents {members : Members} {m : String × Document} (h : m ∈ documents members) :
    ∃ n, (m.1, n) ∈ members ∧ m.2 = document n := by
  induction members with
  | nil => cases h
  | cons n rest ih =>
    obtain ⟨k, n⟩ := n
    rw [documents] at h
    rcases List.mem_cons.mp h with rfl | h
    · exact ⟨n, List.mem_cons_self, rfl⟩
    · obtain ⟨n', hn', hm⟩ := ih h
      exact ⟨n', List.mem_cons_of_mem _ hn', hm⟩

theorem distinct_documents {members : Members} :
    Distinct (documents members) ↔ Distinct members := by
  rw [Distinct, Distinct, documents_keys]

theorem single_table {form : Form} {inner : Members} :
    (document (.table form inner)).Single ↔ Distinct inner := by
  rw [document, Document.Single, distinct_documents]

structure Neat (members : Members) : Prop where
  distinct : Distinct members
  single : ∀ m ∈ members, (document m.2).Single

theorem Neat.nil : Neat [] where
  distinct := .nil
  single := by simp

theorem Neat.put {members : Members} (h : Neat members) (key : String) {n : Node}
    (hn : (document n).Single) : Neat (put key n members) where
  distinct := h.distinct.put key n
  single := by
    intro m hm
    rcases mem_put hm with rfl | hm
    · exact hn
    · exact h.single m hm

theorem Neat.inner {members inner : Members} {key : String} {form : Form} (h : Neat members)
    (hkey : members.lookup key = some (.table form inner)) : Distinct inner :=
  single_table.mp (h.single _ (mem_of_lookup hkey))

theorem descend_distinct {byDots : Bool} {change : Form → Members → Option Members}
    (hchange : ∀ form ms ms', Distinct ms → change form ms = some ms' → Distinct ms')
    {path : List String} {form : Form} {ms ms' : Members} (hms : Distinct ms)
    (h : descend byDots change path form ms = some ms') : Distinct ms' := by
  cases path with
  | nil => exact hchange form ms ms' hms h
  | cons k path =>
    rw [descend] at h
    split at h
    · obtain ⟨inner, -, rfl⟩ := Option.map_eq_some_iff.mp h
      exact hms.put k _
    · split at h
      · cases h
      · obtain ⟨inner, -, rfl⟩ := Option.map_eq_some_iff.mp h
        exact hms.put k _
    · obtain ⟨last, -, rfl⟩ := Option.map_eq_some_iff.mp h
      exact hms.put k _
    · cases h

theorem descend_neat {byDots : Bool} {change : Form → Members → Option Members}
    (hdistinct : ∀ form ms ms', Distinct ms → change form ms = some ms' → Distinct ms')
    (hneat : ∀ form ms ms', Neat ms → change form ms = some ms' → Neat ms')
    {path : List String} {form : Form} {ms ms' : Members} (hms : Neat ms)
    (h : descend byDots change path form ms = some ms') : Neat ms' := by
  -- Below the first step only the keys of one table have to stay distinct: no induction.
  cases path with
  | nil => exact hneat form ms ms' hms h
  | cons k path =>
    rw [descend] at h
    split at h
    · obtain ⟨inner, hinner, rfl⟩ := Option.map_eq_some_iff.mp h
      exact hms.put k (single_table.mpr (descend_distinct hdistinct .nil hinner))
    · rename_i form' inner hk
      split at h
      · cases h
      · obtain ⟨inner', hinner, rfl⟩ := Option.map_eq_some_iff.mp h
        exact hms.put k (single_table.mpr (descend_distinct hdistinct (hms.inner hk) hinner))
    · obtain ⟨last, -, rfl⟩ := Option.map_eq_some_iff.mp h
      exact hms.put k trivial
    · cases h

theorem addValue_distinct {path : List String} {key : String} {value : Document}
    {ms ms' : Members} (hms : Distinct ms) (h : addValue path key value ms = some ms') :
    Distinct ms' := by
  refine descend_distinct (fun form ms ms' hms h => ?_) hms h
  split at h
  · cases h
  split at h
  · cases h
  · cases h
    exact hms.put key _

theorem addValue_neat {path : List String} {key : String} {value : Document}
    (hvalue : value.Single) {ms ms' : Members} (hms : Neat ms)
    (h : addValue path key value ms = some ms') : Neat ms' := by
  refine descend_neat (fun form ms ms' hms h => ?_) (fun form ms ms' hms h => ?_) hms h
  all_goals
    split at h
    · cases h
    split at h
    · cases h
    cases h
  · exact hms.put key _
  · exact hms.put key hvalue

theorem addValueAt_neat {place path : List String} {key : String} {value : Document}
    (hvalue : value.Single) {ms ms' : Members} (hms : Neat ms)
    (h : addValueAt place path key value ms = some ms') : Neat ms' :=
  descend_neat (fun _ _ _ => addValue_distinct) (fun _ _ _ => addValue_neat hvalue) hms h

theorem openTable_neat {path : List String} {key : String} {ms ms' : Members} (hms : Neat ms)
    (h : openTable path key ms = some ms') : Neat ms' := by
  refine descend_neat (fun form ms ms' hms h => ?_) (fun form ms ms' hms h => ?_) hms h
  all_goals split at h
  · cases h
    exact hms.put key _
  · cases h
    exact hms.put key _
  · cases h
  · cases h
    exact hms.put key (single_table.mpr .nil)
  · rename_i inner hkey
    cases h
    exact hms.put key (single_table.mpr (hms.inner hkey))
  · cases h

theorem openElement_neat {path : List String} {key : String} {ms ms' : Members} (hms : Neat ms)
    (h : openElement path key ms = some ms') : Neat ms' := by
  refine descend_neat (fun form ms ms' hms h => ?_) (fun form ms ms' hms h => ?_) hms h
  all_goals split at h
  · cases h
    exact hms.put key _
  · cases h
    exact hms.put key _
  · cases h
  · cases h
    exact hms.put key trivial
  · cases h
    exact hms.put key trivial
  · cases h

end Node

open Node

theorem inlineTable_single (value : Scan Document) :
    Gives Document.Single (inlineTable value) := by
  refine (gives_true _).bind fun _ _ => (gives_true _).bind fun members _ =>
    (gives_true _).bind fun _ _ => (gives_true _).bind fun _ _ => ?_
  have htable : Gives Distinct (StateT.lift (members.foldlM
      (fun ms m => addValue m.1.1 m.1.2 m.2 ms) []) : Scan Node.Members) :=
    .lift fun _ h => foldlM_invariant (fun _ _ _ => addValue_distinct) .nil h
  exact htable.bind fun table h => .pure (distinct_documents.mpr h)

theorem scalar_single : Gives Document.Single scalar := by
  have hmade {α : Type} (p : Scan α) (f : α → Document) (hf : ∀ a, (f a).Single) :
      Gives Document.Single (p >>= fun a => pure (f a)) :=
    (gives_true p).bind fun a _ => .pure (hf a)
  have hword (w : List Char) (b : Bool) :
      Gives Document.Single (literal w *> pure (Document.boolean b)) :=
    .seqRight _ (.pure trivial)
  exact (hmade text .text fun _ => trivial).orElse
    ((hmade moment (fun m => .text m.write) fun _ => trivial).orElse
      ((hmade writtenFloat .number fun _ => trivial).orElse
        ((hmade namedFloat .number fun _ => trivial).orElse
          ((hmade integer .integer fun _ => trivial).orElse
            ((hword _ true).orElse (hword _ false))))))

theorem value_single (depth : Nat) : Gives Document.Single (value depth) := by
  cases depth with
  | zero => exact scalar_single
  | succ depth =>
    have hlist : Gives Document.Single (list (value depth)) :=
      (gives_true _).bind fun _ _ => .pure trivial
    exact hlist.orElse ((inlineTable_single _).orElse scalar_single)

theorem member_single {value : Scan Document} (h : Gives Document.Single value) :
    Gives (fun m => m.2.Single) (member value) :=
  (gives_true _).bind fun _ _ => (gives_true _).bind fun _ _ => (gives_true _).bind fun _ _ =>
    h.bind fun _ hv => (gives_true _).bind fun _ _ => .pure hv

theorem header_neat {s : State} (h : Neat s.root) : Gives (fun t => Neat t.root) (header s) := by
  refine (gives_true _).bind fun _ _ => (gives_true _).bind fun element _ => ?_
  split
  · refine (gives_true _).bind fun k _ => (gives_true _).bind fun _ _ => ?_
    have hroot : Gives Neat (StateT.lift (openElement k.1 k.2 s.root) : Scan Node.Members) :=
      .lift fun _ => openElement_neat h
    exact hroot.bind fun _ hroot => .pure hroot
  · refine (gives_true _).bind fun k _ => (gives_true _).bind fun _ _ => ?_
    have hroot : Gives Neat (StateT.lift (openTable k.1 k.2 s.root) : Scan Node.Members) :=
      .lift fun _ => openTable_neat h
    exact hroot.bind fun _ hroot => .pure hroot

theorem entry_neat {s : State} (h : Neat s.root) : Gives (fun t => Neat t.root) (entry s) := by
  refine (member_single (value_single maxDepth)).bind fun m hm => ?_
  have hroot : Gives Neat (StateT.lift (addValueAt s.place m.1.1 m.1.2 m.2 s.root) :
      Scan Node.Members) :=
    .lift fun _ => addValueAt_neat hm h
  exact hroot.bind fun _ hroot => .pure hroot

theorem line_neat {s : State} (h : Neat s.root) : Gives (fun t => Neat t.root) (line s) := by
  have hending {p : Scan State} (hp : Gives (fun t => Neat t.root) p) :
      Gives (fun t : State => Neat t.root) (p >>= fun t => ending >>= fun _ => pure t) :=
    hp.bind fun _ ht => (gives_true _).bind fun _ _ => .pure ht
  refine (gives_true _).bind fun _ _ => (gives_true _).bind fun c _ => ?_
  split
  · exact hending (header_neat h)
  · exact hending (.pure h)
  · exact hending (.pure h)
  · exact hending (.pure h)
  · exact hending (.pure h)
  · exact hending (entry_neat h)

theorem read?_distinct {text : String} {members : Document.Members}
    (h : read? text = some members) : Distinct members ∧ ∀ m ∈ members, m.2.Single := by
  obtain ⟨s, hs, rfl⟩ := Option.map_eq_some_iff.mp h
  have hneat : Neat s.root := foldUpTo_invariant (P := fun t => Neat t.root)
    (fun _ => line_neat) .nil hs
  refine ⟨distinct_documents.mpr hneat.distinct, fun m hm => ?_⟩
  obtain ⟨n, hn, hdocument⟩ := mem_documents hm
  exact hdocument ▸ hneat.single _ hn

end Toml

end CardDesk
