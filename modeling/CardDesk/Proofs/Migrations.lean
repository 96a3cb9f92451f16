import CardDesk.Sql.Open
import Mathlib.Data.List.Infix
import Mathlib.Data.List.Nodup

/-!
Databases brought up to date. A run applies the migrations that are pending, in their order, up to
the first that fails; a store is handed out only when none is pending any more.
-/

namespace CardDesk.Sql

def Migration.entry (m : Migration) : Applied :=
  ⟨m.version, true, true⟩

def Migration.effects (m : Migration) : List MigrationEffect :=
  [.executed m, .recorded m]

def pending (h : History) (ms : List Migration) : List Migration :=
  ms.filter fun m => (applied? h m).isNone

def Intact (h : History) (ms : List Migration) : Prop :=
  ∀ m ∈ ms, ∀ a, applied? h m = some a → a.intact = true

theorem applied?_eq_none_iff {h : History} {m : Migration} :
    applied? h m = none ↔ ∀ a ∈ h, a.version ≠ m.version := by
  simp [applied?]

theorem applied?_concat {h : History} {m n : Migration} (hne : m.version ≠ n.version) :
    applied? (h ++ [m.entry]) n = applied? h n := by
  simp [applied?, Migration.entry, hne]

theorem pending_cons_of_none {h : History} {m : Migration} {ms : List Migration}
    (hm : applied? h m = none) : pending h (m :: ms) = m :: pending h ms := by
  simp [pending, hm]

theorem pending_cons_of_some {h : History} {m : Migration} {ms : List Migration} {a : Applied}
    (hm : applied? h m = some a) : pending h (m :: ms) = pending h ms := by
  simp [pending, hm]

theorem pending_concat {h : History} {m : Migration} {ms : List Migration}
    (hm : m.version ∉ ms.map Migration.version) : pending (h ++ [m.entry]) ms = pending h ms := by
  apply List.filter_congr
  intro n hn
  rw [applied?_concat]
  rintro he
  exact hm (he ▸ List.mem_map_of_mem hn)

theorem intact_concat {h : History} {m : Migration} {ms : List Migration}
    (hm : m.version ∉ ms.map Migration.version) : Intact (h ++ [m.entry]) ms ↔ Intact h ms := by
  apply forall₂_congr
  intro n hn
  rw [applied?_concat]
  rintro he
  exact hm (he ▸ List.mem_map_of_mem hn)

inductive Applying (m : Migration) (h : History) : MigrationRun → Prop
  | refused (e : MigrationError) : Applying m h ⟨.error e, [], h⟩
  | unrecorded (e : MigrationError) : Applying m h ⟨.error e, [.executed m], h⟩
  | uncommitted (e : MigrationError) : Applying m h ⟨.error e, m.effects, h⟩
  | untimed (e : MigrationError) : Applying m h ⟨.error e, m.effects, h ++ [m.entry]⟩
  | done : Applying m h ⟨.ok (), m.effects, h ++ [m.entry]⟩

theorem apply_applying (refuses : Refusing) (m : Migration) (h : History) :
    Applying m h (apply refuses m h) := by
  rw [apply]
  split
  · exact .refused _
  split
  · exact .unrecorded _
  dsimp only
  split
  · exact .uncommitted _
  split
  · exact .untimed _
  · exact .done

theorem apply_of_willing {refuses : Refusing} (hr : ∀ s, refuses s = none) (m : Migration)
    (h : History) : apply refuses m h = ⟨.ok (), m.effects, h ++ [m.entry]⟩ := by
  simp [apply, firstRefused, hr, Migration.effects, Migration.entry]

/-- What a pass over migrations does: it begins to do all that is pending, and it does not succeed
without having done it and having found the rest as it was applied. -/
structure Passed (h : History) (ms : List Migration) (run : MigrationRun) : Prop where
  effects : run.effects <+: (pending h ms).flatMap Migration.effects
  history : ∃ done, done <+: pending h ms ∧ run.history = h ++ done.map Migration.entry
  whole : run.result = .ok () → run.effects = (pending h ms).flatMap Migration.effects ∧
    run.history = h ++ (pending h ms).map Migration.entry ∧ Intact h ms

theorem Passed.nothing {h : History} {ms : List Migration} (e : MigrationError) :
    Passed h ms ⟨.error e, [], h⟩ where
  effects := List.nil_prefix
  history := ⟨[], List.nil_prefix, by simp⟩
  whole := nofun

theorem Passed.stopped {h h' : History} {m : Migration} {ms done : List Migration}
    {e : MigrationError} {effects : List MigrationEffect} (hm : applied? h m = none)
    (heffects : effects <+: m.effects) (hdone : done <+: [m])
    (hh : h' = h ++ done.map Migration.entry) : Passed h (m :: ms) ⟨.error e, effects, h'⟩ where
  effects := by
    rw [pending_cons_of_none hm, List.flatMap_cons]
    exact heffects.trans (List.prefix_append _ _)
  history := by
    refine ⟨done, ?_, hh⟩
    rw [pending_cons_of_none hm]
    exact hdone.trans (List.prefix_append [m] _)
  whole := nofun

theorem applyAll_passed (refuses : Refusing) {ms : List Migration}
    (hn : (ms.map Migration.version).Nodup) (h : History) :
    Passed h ms (applyAll refuses ms h) := by
  induction ms generalizing h with
  | nil =>
    have hnone : pending h [] = [] := rfl
    refine ⟨List.prefix_rfl, ⟨[], List.prefix_rfl, ?_⟩, fun _ => ⟨rfl, ?_, by simp [Intact]⟩⟩
    · simp [applyAll]
    · simp [applyAll, hnone]
  | cons m ms ih =>
    obtain ⟨hm, hms⟩ := List.nodup_cons.mp hn
    rw [applyAll]
    cases ha : applied? h m with
    | some a =>
      dsimp only
      split
      · rename_i hintact
        obtain ⟨heffects, hhistory, hwhole⟩ := ih hms h
        rw [← pending_cons_of_some ha] at heffects hhistory hwhole
        refine ⟨heffects, hhistory, fun hok => ?_⟩
        obtain ⟨he, hh, hall⟩ := hwhole hok
        refine ⟨he, hh, List.forall_mem_cons.mpr ⟨?_, hall⟩⟩
        rintro b hb
        cases ha.symm.trans hb
        exact hintact
      · exact .nothing _
    | none =>
      have hrun := apply_applying refuses m h
      dsimp only
      generalize apply refuses m h = run at hrun
      cases hrun with
      | refused e => exact .nothing e
      | unrecorded e => exact .stopped ha (List.prefix_append [_] _) List.nil_prefix (by simp)
      | uncommitted e => exact .stopped ha List.prefix_rfl List.nil_prefix (by simp)
      | untimed e => exact .stopped ha List.prefix_rfl List.prefix_rfl rfl
      | done =>
        obtain ⟨heffects, ⟨done, hdone, hhistory⟩, hwhole⟩ := ih hms (h ++ [m.entry])
        rw [pending_concat hm] at heffects hdone hwhole
        have hpending : pending h (m :: ms) = m :: pending h ms := pending_cons_of_none ha
        constructor
        case effects =>
          rw [hpending, List.flatMap_cons]
          exact (List.prefix_append_right_inj _).mpr heffects
        case history =>
          refine ⟨m :: done, ?_, ?_⟩
          · rw [hpending]
            exact (List.prefix_cons_inj m).mpr hdone
          · simp [hhistory]
        case whole =>
          intro hok
          obtain ⟨he, hh, hall⟩ := hwhole hok
          refine ⟨?_, ?_, ?_⟩
          · rw [hpending, List.flatMap_cons]
            exact congrArg (m.effects ++ ·) he
          · simp [hpending, hh]
          · rw [intact_concat hm] at hall
            apply List.forall_mem_cons.mpr ⟨_, hall⟩
            intro a hb
            rw [ha] at hb
            cases hb

theorem applyAll_of_willing {refuses : Refusing} (hr : ∀ s, refuses s = none)
    {ms : List Migration} (hn : (ms.map Migration.version).Nodup) {h : History}
    (hintact : Intact h ms) : (applyAll refuses ms h).result = .ok () := by
  induction ms generalizing h with
  | nil => rfl
  | cons m ms ih =>
    obtain ⟨hm, hms⟩ := List.nodup_cons.mp hn
    obtain ⟨hfirst, hrest⟩ := List.forall_mem_cons.mp hintact
    rw [applyAll]
    cases ha : applied? h m with
    | some a =>
      dsimp only
      rw [if_pos (hfirst a ha)]
      exact ih hms hrest
    | none =>
      dsimp only
      rw [apply_of_willing hr]
      exact ih hms ((intact_concat hm).mpr hrest)

/-- A history with which nothing is wrong: each migration in it is one of the desk's, still the
same, and was applied to its end. -/
structure Sound (h : History) : Prop where
  complete : ∀ a ∈ h, a.complete = true
  known : ∀ a ∈ h, ∃ m ∈ migrations, m.version = a.version
  intact : ∀ a ∈ h, a.intact = true

theorem incomplete?_eq_none_iff {h : History} :
    incomplete? h = none ↔ ∀ a ∈ h, a.complete = true := by
  simp [incomplete?]

theorem unknown?_eq_none_iff {h : History} :
    unknown? h = none ↔ ∀ a ∈ h, ∃ m ∈ migrations, m.version = a.version := by
  simp [unknown?, known]

theorem checkHistory_eq_ok_iff {h : History} :
    checkHistory h = .ok () ↔ (∀ a ∈ h, a.complete = true) ∧
      ∀ a ∈ h, ∃ m ∈ migrations, m.version = a.version := by
  rw [← incomplete?_eq_none_iff, ← unknown?_eq_none_iff, checkHistory]
  cases incomplete? h <;> cases unknown? h <;> simp

theorem migrations_distinct : (migrations.map Migration.version).Nodup := by
  decide

theorem intact_iff {h : History} (hkeyed : (h.map Applied.version).Nodup)
    (hknown : ∀ a ∈ h, ∃ m ∈ migrations, m.version = a.version) :
    Intact h migrations ↔ ∀ a ∈ h, a.intact = true := by
  constructor
  · intro hintact a ha
    obtain ⟨m, hm, hversion⟩ := hknown a ha
    obtain ⟨b, hb⟩ : ∃ b, applied? h m = some b := by
      rw [← Option.ne_none_iff_exists', ne_eq, applied?_eq_none_iff]
      exact fun hn => hn a ha hversion.symm
    -- No version is in the history twice, so that the entry found is this one.
    have hba : b = a := by
      apply List.inj_on_of_nodup_map hkeyed (List.mem_of_find?_eq_some hb) ha
      have := List.find?_some hb
      rw [decide_eq_true_eq] at this
      exact this.trans hversion
    exact hba ▸ hintact m hm b hb
  · intro hintact m _ a ha
    exact hintact a (List.mem_of_find?_eq_some ha)

theorem sound_iff {h : History} (hkeyed : (h.map Applied.version).Nodup) :
    Sound h ↔ checkHistory h = .ok () ∧ Intact h migrations := by
  rw [checkHistory_eq_ok_iff]
  constructor
  · rintro ⟨hcomplete, hknown, hintact⟩
    exact ⟨⟨hcomplete, hknown⟩, (intact_iff hkeyed hknown).mpr hintact⟩
  · rintro ⟨⟨hcomplete, hknown⟩, hintact⟩
    exact ⟨hcomplete, hknown, (intact_iff hkeyed hknown).mp hintact⟩

theorem migrate_passed (refuses : Refusing) (h : History) :
    Passed h migrations (migrate refuses h) ∧
      (checkHistory h = .ok () ∨
        ∃ e, migrate refuses h = ⟨.error e, [], h⟩) := by
  rw [migrate]
  split
  · exact ⟨.nothing _, .inr ⟨_, rfl⟩⟩
  split
  · exact ⟨.nothing _, .inr ⟨_, rfl⟩⟩
  split
  · exact ⟨.nothing _, .inr ⟨_, rfl⟩⟩
  split
  · exact ⟨.nothing _, .inr ⟨_, rfl⟩⟩
  rename_i hcheck
  refine ⟨?_, .inl hcheck⟩
  have hrun := applyAll_passed refuses migrations_distinct h
  dsimp only
  split
  · exact hrun
  split
  · exact ⟨hrun.effects, hrun.history, nofun⟩
  · exact hrun

theorem migrate_of_willing {refuses : Refusing} (hr : ∀ s, refuses s = none) {h : History}
    (hcheck : checkHistory h = .ok ()) (hintact : Intact h migrations) :
    (migrate refuses h).result = .ok () := by
  have hrun := applyAll_of_willing hr migrations_distinct hintact
  have hcomplete := incomplete?_eq_none_iff.mpr (checkHistory_eq_ok_iff.mp hcheck).1
  simp [migrate, firstRefused, hr, hcomplete, hcheck, hrun]

theorem pending_migrations (h : History) :
    (applied? h createCard = none ∧ pending h migrations = [createCard] ∧ Intact h migrations) ∨
      ∃ a, applied? h createCard = some a ∧ pending h migrations = [] ∧
        (Intact h migrations ↔ a.intact = true) := by
  cases ha : applied? h createCard with
  | none => exact .inl ⟨rfl, pending_cons_of_none ha, by simp [Intact, migrations, ha]⟩
  | some a => exact .inr ⟨a, rfl, pending_cons_of_some ha, by simp [Intact, migrations, ha]⟩

theorem migrate_of_ok {refuses : Refusing} {h : History}
    (hok : (migrate refuses h).result = .ok ()) :
    migrate refuses h = ⟨.ok (), (pending h migrations).flatMap Migration.effects,
      h ++ (pending h migrations).map Migration.entry⟩ := by
  obtain ⟨heffects, hhistory, -⟩ := (migrate_passed refuses h).1.whole hok
  rw [← hok, ← heffects, ← hhistory]

/-- A history in which the card migration is entered once, complete and unchanged. -/
structure UpToDate (h : History) : Prop where
  keyed : (h.map Applied.version).Nodup
  sound : Sound h
  entered : h.filter (fun a => a.version = createCard.version) = [createCard.entry]

theorem UpToDate.migrate {refuses : Refusing} (hr : ∀ s, refuses s = none) {h : History}
    (hh : UpToDate h) : migrate refuses h = ⟨.ok (), [], h⟩ := by
  obtain ⟨hcheck, hintact⟩ := (sound_iff hh.keyed).mp hh.sound
  have hok := migrate_of_willing hr hcheck hintact
  obtain ⟨hnone, -⟩ | ⟨a, -, hpending, -⟩ := pending_migrations h
  · have := hh.entered
    rw [List.filter_eq_nil_iff.mpr (by simpa using applied?_eq_none_iff.mp hnone)] at this
    cases this
  · rw [migrate_of_ok hok, hpending]
    simp

end CardDesk.Sql
