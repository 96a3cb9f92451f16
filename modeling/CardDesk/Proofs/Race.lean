import CardDesk.Proofs.Crowd
import CardDesk.Store.Timed
import Mathlib.Data.List.Forall2

namespace CardDesk

variable {ι α : Type}

inductive Thread.Matches : Thread α → Client α → Prop
  | ended (a : α) : Matches (.ended a) (.ready (.done a))
  | stalled : Matches .stalled .stalled
  | put (due : Nat) (c : Call) (after : Nat) (next : Except StoreError c.Answer → Dialogue α) :
    Matches (.waiting due (.put c after next)) (.waiting c next)
  | resume (due : Nat) (d : Dialogue α) : Matches (.waiting due (.resume d)) (.ready d.quiet)

theorem Thread.Matches.result {t : Thread α} {u : Client α} (h : t.Matches u) {a : α}
    (ht : t.result? = some a) : u.result? = some a := by
  cases h with
  | ended b => exact ht
  | _ => cases ht

namespace Crowd

variable [DecidableEq ι]

def Leads (is : List ι) (s s' : Crowd ι α) : Prop :=
  ∃ turns, turns ⊆ is ∧ s.run (turns.map .turn) = s'

variable {is : List ι} {s s' s'' : Crowd ι α}

theorem Leads.refl : Leads is s s :=
  ⟨[], List.nil_subset _, rfl⟩

theorem Leads.turn {i : ι} (h : i ∈ is) : Leads is s (s.step (.turn i)) :=
  ⟨[i], List.cons_subset.mpr ⟨h, List.nil_subset _⟩, rfl⟩

theorem Leads.trans (h : Leads is s s') (h' : Leads is s' s'') : Leads is s s'' := by
  obtain ⟨turns, hturns, rfl⟩ := h
  obtain ⟨turns', hturns', rfl⟩ := h'
  refine ⟨turns ++ turns', List.append_subset.mpr ⟨hturns, hturns'⟩, ?_⟩
  rw [List.map_append, run, List.foldl_append]
  rfl

theorem Leads.mono {js : List ι} (h : Leads is s s') (hsub : is ⊆ js) : Leads js s s' := by
  obtain ⟨turns, hturns, hrun⟩ := h
  exact ⟨turns, List.Subset.trans hturns hsub, hrun⟩

theorem Leads.client_eq (h : Leads is s s') {j : ι} (hj : j ∉ is) :
    s'.client j = s.client j := by
  obtain ⟨turns, hturns, rfl⟩ := h
  apply run_keeps (P := fun s' => s'.client j = s.client j) rfl
  intro s' m hm hs'
  obtain ⟨i, hi, rfl⟩ := List.mem_map.mp hm
  have hne : j ≠ i := by
    rintro rfl
    exact hj (hturns hi)
  rw [step_client_of_ne s' hne, hs']

theorem leads_start (now : Nat) (i : ι) (d : Dialogue α) {s : Crowd ι α}
    (h : s.client i = .ready d.quiet) :
    ∃ s', Leads [i] s s' ∧ (Thread.start now d s.world).1.Matches (s'.client i) ∧
      s'.world = (Thread.start now d s.world).2.2 := by
  induction d generalizing s with
  | done a => exact ⟨s, .refl, h ▸ .ended a, rfl⟩
  | note r d ih => exact ih h
  | ask c k ih =>
    have hturn : Leads [i] s (s.step (.turn i)) := .turn List.mem_cons_self
    have hclient := s.step_client_self i
    have hworld : (s.step (.turn i)).world = ((s.client i).turn s.world).2.2 := rfl
    have hgoes (x : Except StoreError c.Answer) (w : World)
        (hc : (s.step (.turn i)).client i = .ready (k x).quiet)
        (hw : (s.step (.turn i)).world = w) :
        ∃ s', Leads [i] s s' ∧ (Thread.start now (k x) w).1.Matches (s'.client i) ∧
          s'.world = (Thread.start now (k x) w).2.2 := by
      obtain ⟨s', hs', hmatches, hworld'⟩ := ih x hc
      rw [hw] at hmatches hworld'
      exact ⟨s', hturn.trans hs', hmatches, hworld'⟩
    rw [h, Dialogue.quiet, Client.turn] at hclient hworld
    rw [Thread.start]
    generalize s.world.begin c = b at hclient hworld ⊢
    obtain ⟨course, w⟩ := b
    cases course with
    | never => exact ⟨_, hturn, hclient ▸ .stalled, hworld⟩
    | answered x => exact hgoes x w hclient hworld
    | passed before after =>
      cases before with
      | zero =>
        cases after with
        | zero => exact hgoes _ _ hclient hworld
        | succ after => exact ⟨_, hturn, hclient ▸ .resume _ _, hworld⟩
      | succ before => exact ⟨_, hturn, hclient ▸ .put _ c after k, hworld⟩

theorem leads_wake (now : Nat) (i : ι) {t : Thread α} {s : Crowd ι α}
    (h : t.Matches (s.client i)) :
    ∃ s', Leads [i] s s' ∧ (Thread.wake now t s.world).1.Matches (s'.client i) ∧
      s'.world = (Thread.wake now t s.world).2.2 := by
  generalize hi : s.client i = u at h
  cases h with
  | ended a => exact ⟨s, .refl, hi ▸ .ended a, rfl⟩
  | stalled => exact ⟨s, .refl, hi ▸ .stalled, rfl⟩
  | resume due d =>
    rw [Thread.wake]
    by_cases hdue : due ≤ now
    · rw [if_pos hdue]
      exact leads_start now i d hi
    · rw [if_neg hdue]
      exact ⟨s, .refl, hi ▸ .resume due d, rfl⟩
  | put due c after k =>
    rw [Thread.wake]
    by_cases hdue : due ≤ now
    · rw [if_pos hdue]
      have hturn : Leads [i] s (s.step (.turn i)) := .turn List.mem_cons_self
      have hclient := s.step_client_self i
      rw [hi, Client.turn] at hclient
      have hworld : (s.step (.turn i)).world = (s.world.settle c).2 := by
        change ((s.client i).turn s.world).2.2 = _
        rw [hi, Client.turn]
      by_cases hafter : after = 0
      · obtain ⟨s', hs', hmatches, hworld'⟩ := leads_start now i _ hclient
        rw [hworld] at hmatches hworld'
        simp only [hafter, if_true]
        exact ⟨s', hturn.trans hs', hmatches, hworld'⟩
      · simp only [hafter, if_false]
        exact ⟨_, hturn, hclient ▸ .resume _ _, hworld⟩
    · rw [if_neg hdue]
      exact ⟨s, .refl, hi ▸ .put due c after k, rfl⟩

theorem Leads.forall₂ {β : Type} {P : β → Client α → Prop} {js : List ι} {bs : List β}
    (h : Leads is s s') (hjs : ∀ j ∈ js, j ∉ is)
    (hbs : List.Forall₂ (fun j b => P b (s.client j)) js bs) :
    List.Forall₂ (fun j b => P b (s'.client j)) js bs := by
  induction hbs with
  | nil => exact .nil
  | cons hb _ ih =>
    apply List.Forall₂.cons
    · rw [h.client_eq (hjs _ List.mem_cons_self)]
      exact hb
    · exact ih fun j hj => hjs j (List.mem_cons_of_mem _ hj)

theorem leads_all {β : Type} {f : β → World → Thread α × List Event × World}
    {all : List β → World → List (Thread α) × List Event × World} {P : β → Client α → Prop}
    (hf : ∀ i b (s : Crowd ι α), P b (s.client i) → ∃ s', Leads [i] s s' ∧
      (f b s.world).1.Matches (s'.client i) ∧ s'.world = (f b s.world).2.2)
    (hnil : ∀ w, all [] w = ([], [], w))
    (hcons : ∀ b bs w, (all (b :: bs) w).1 = (f b w).1 :: (all bs (f b w).2.2).1 ∧
      (all (b :: bs) w).2.2 = (all bs (f b w).2.2).2.2)
    {bs : List β} (hn : is.Nodup) (hbs : List.Forall₂ (fun i b => P b (s.client i)) is bs) :
    ∃ s', Leads is s s' ∧
      List.Forall₂ (fun i t => Thread.Matches t (s'.client i)) is (all bs s.world).1 ∧
      s'.world = (all bs s.world).2.2 := by
  induction is generalizing bs s with
  | nil =>
    cases hbs
    rw [hnil]
    exact ⟨s, .refl, .nil, rfl⟩
  | cons i is ih =>
    obtain ⟨b, bs, hb, hrest, rfl⟩ := List.forall₂_cons_left_iff.mp hbs
    obtain ⟨hi, hn⟩ := List.nodup_cons.mp hn
    obtain ⟨s₁, hfirst, hmatches, hworld⟩ := hf i b s hb
    have hdisjoint : ∀ j ∈ is, j ∉ [i] := by
      intro j hj hji
      exact hi (List.mem_singleton.mp hji ▸ hj)
    obtain ⟨s₂, hothers, hall, hworld'⟩ := ih hn (hfirst.forall₂ hdisjoint hrest)
    rw [hworld] at hall hworld'
    refine ⟨s₂, ?_, ?_, ?_⟩
    · apply (hfirst.mono _).trans (hothers.mono (List.subset_cons_self i is))
      exact List.cons_subset.mpr ⟨List.mem_cons_self, List.nil_subset _⟩
    · rw [(hcons b bs s.world).1]
      apply List.Forall₂.cons _ hall
      rwa [hothers.client_eq hi]
    · rw [(hcons b bs s.world).2]
      exact hworld'

theorem leads_startAll (now : Nat) {ds : List (Dialogue α)} (hn : is.Nodup)
    (hds : List.Forall₂ (fun i d => s.client i = .ready (Dialogue.quiet d)) is ds) :
    ∃ s', Leads is s s' ∧
      List.Forall₂ (fun i t => Thread.Matches t (s'.client i)) is
        (Thread.startAll now ds s.world).1 ∧
      s'.world = (Thread.startAll now ds s.world).2.2 :=
  leads_all (P := fun d u => u = .ready (Dialogue.quiet d)) (fun i d _ h => leads_start now i d h)
    (fun _ => rfl) (fun _ _ _ => ⟨rfl, rfl⟩) hn hds

theorem leads_wakeAll (now : Nat) {ts : List (Thread α)} (hn : is.Nodup)
    (hts : List.Forall₂ (fun i t => Thread.Matches t (s.client i)) is ts) :
    ∃ s', Leads is s s' ∧
      List.Forall₂ (fun i t => Thread.Matches t (s'.client i)) is
        (Thread.wakeAll now ts s.world).1 ∧
      s'.world = (Thread.wakeAll now ts s.world).2.2 :=
  leads_all (fun i _ _ h => leads_wake now i h) (fun _ => rfl) (fun _ _ _ => ⟨rfl, rfl⟩) hn hts

theorem leads_finish (rounds : Nat) {ts : List (Thread α)} (hn : is.Nodup)
    (hts : List.Forall₂ (fun i t => Thread.Matches t (s.client i)) is ts) :
    ∃ s', Leads is s s' ∧
      List.Forall₂ (fun i t => Thread.Matches t (s'.client i)) is
        (Thread.finish rounds ts s.world).1 ∧
      s'.world = (Thread.finish rounds ts s.world).2.2 := by
  induction rounds generalizing ts s with
  | zero => exact ⟨s, .refl, hts, rfl⟩
  | succ rounds ih =>
    rw [Thread.finish]
    cases (ts.filterMap Thread.due?).min? with
    | none => exact ⟨s, .refl, hts, rfl⟩
    | some now =>
      obtain ⟨s₁, hwoken, hmatches, hworld⟩ := leads_wakeAll now hn hts
      obtain ⟨s₂, hfinished, hmatches', hworld'⟩ := ih hmatches
      rw [hworld] at hmatches' hworld'
      exact ⟨s₂, hwoken.trans hfinished, hmatches', hworld'⟩

/-- The clients of a race have the results and leave the world behind that they would in some order
of their turns. -/
theorem race_of_turns (ds : ι → Dialogue α) {is : List ι} (hn : is.Nodup) (w : World) :
    ∃ s, Leads is (gather ds w) s ∧ s.world = (race (is.map ds) w).2.2 ∧
      List.Forall₂ (fun i x => ∀ a, x = some a → (s.client i).result? = some a) is
        (race (is.map ds) w).1 := by
  have hds : List.Forall₂ (fun i d => (gather ds w).client i = .ready (Dialogue.quiet d)) is
      (is.map ds) := by
    rw [List.forall₂_map_right_iff, List.forall₂_same]
    intro i _
    rfl
  obtain ⟨s₁, hstarted, hmatches, hworld⟩ := leads_startAll 0 hn hds
  obtain ⟨s₂, hfinished, hmatches', hworld'⟩ :=
    leads_finish (2 * (is.map ds).length) hn hmatches
  rw [hworld] at hmatches' hworld'
  refine ⟨s₂, hstarted.trans hfinished, hworld', ?_⟩
  change List.Forall₂ _ is (List.map Thread.result? _)
  rw [List.forall₂_map_right_iff]
  exact hmatches'.imp fun i t ht a => ht.result

end Crowd

end CardDesk
