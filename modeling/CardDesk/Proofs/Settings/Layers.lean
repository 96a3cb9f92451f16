import CardDesk.Proofs.Settings.Assembly
import CardDesk.Proofs.Settings.TomlKeys
import CardDesk.Settings.Environment
import CardDesk.Settings.Error
import CardDesk.Settings.KeyPath
import Mathlib.Data.List.Induction

/-!
What becomes of one setting when a source is laid over what has been put together before. Sources
are laid over as a whole; what they do to a setting depends on what they say of that setting alone.
-/

namespace CardDesk.Settings

open Keyed

namespace Tree

def isTable : Tree → Bool
  | table _ _ => true
  | _ => false

def value? (t : Tree) (s : Setting) : Option Tree :=
  (t.get? s.home.key).bind fun inner => inner.get? s.key

def laid (new old : Option Tree) : Option Tree :=
  match new with
  | none => old
  | some v => some (overlay v old)

theorem get?_put (t : Tree) (key other : String) (value : Tree) :
    (t.put key value).get? other = if other = key then some value else t.get? other := by
  cases t with
  | table origin members =>
    rw [put, get?]
    split
    · rename_i h
      rw [h, lookup_put_self]
    · rename_i h
      rw [lookup_put_of_ne h]
      rfl
  | _ =>
    by_cases h : other = key
    · simp [put, get?, h]
    · have hbeq : (other == key) = false := beq_eq_false_iff_ne.mpr h
      simp [put, get?, List.lookup_cons, h, hbeq]

theorem isTable_put (t : Tree) (key : String) (value : Tree) :
    (t.put key value).isTable = true := by
  cases t <;> rfl

theorem overlay_of_not_table {v : Tree} (h : v.isTable = false) (old : Option Tree) :
    overlay v old = v := by
  cases v with
  | table => cases h
  | _ => simp only [overlay]

theorem get?_overlayAll {members : List (String × Tree)} (hdistinct : Distinct members)
    (hlower : ∀ m ∈ members, Text.lower m.1 = m.1) (t : Tree) (key : String) :
    (overlayAll members t).get? key = laid (members.lookup key) (t.get? key) := by
  induction members generalizing t with
  | nil => rw [overlayAll]; rfl
  | cons m rest ih =>
    obtain ⟨k, v⟩ := m
    obtain ⟨hk, hlower⟩ := List.forall_mem_cons.mp hlower
    obtain ⟨hnotin, hrest⟩ := List.nodup_cons.mp hdistinct
    rw [overlayAll, hk, ih hrest hlower, get?_put, List.lookup_cons]
    by_cases hkey : key = k
    · subst hkey
      have hnone : rest.lookup key = none := not_mem_keys_iff.mp hnotin
      simp [hnone, laid]
    · have hbeq : (key == k) = false := beq_eq_false_iff_ne.mpr hkey
      rw [if_neg hkey, hbeq]

theorem isTable_overlayAll {t : Tree} (h : t.isTable = true) (members : List (String × Tree)) :
    (overlayAll members t).isTable = true := by
  induction members generalizing t with
  | nil => rwa [overlayAll]
  | cons m rest ih =>
    rw [overlayAll]
    exact ih (isTable_put _ _ _)

theorem get?_lay (key : String) (value t : Tree) (other : String) :
    (lay key value t).get? other = if other = Text.lower key
      then some (overlay value (t.get? (Text.lower key))) else t.get? other := by
  rw [lay, get?_put]

end Tree

open Settings.Tree

namespace KeyPath

def root : KeyPath → String
  | name key => key
  | member parent _ => parent.root
  | item parent _ => parent.root

def top : KeyPath → String
  | name key => Text.lower key
  | p => p.root

theorem get?_change {p : KeyPath} {other : String} (h : other ≠ p.root) (f : Tree → Tree)
    (t : Tree) : (p.change f t).get? other = t.get? other := by
  induction p generalizing f with
  | name key =>
    rw [change, changeMember, get?_put]
    exact if_neg h
  | member parent key ih => exact ih h _
  | item parent index ih => exact ih h _

theorem get?_put_of_ne {p : KeyPath} {other : String} (h : other ≠ p.top) (value t : Tree) :
    (p.put value t).get? other = t.get? other := by
  cases p with
  | name key =>
    rw [put, get?_lay]
    exact if_neg h
  | member parent key => exact get?_change (p := parent) h _ t
  | item parent index => exact get?_change (p := parent) h _ t

theorem get?_put_member (home key : String) (value t : Tree) :
    ((member (name home) key).put value t).get? home =
      some (lay key value ((t.get? home).getD empty)) := by
  rw [put, change, changeMember, get?_put, if_pos rfl]

def ofName (key : String) : KeyPath :=
  (read? key).getD (.name key)

/-- Whether a path leads to a setting in a section. -/
def leadsTo (p : KeyPath) (home key : String) : Bool :=
  match p with
  | member (name h) k => h == home && Text.lower k == key
  | _ => false

theorem leadsTo_iff {p : KeyPath} {home key : String} :
    p.leadsTo home key ↔ ∃ k, p = member (name home) k ∧ Text.lower k = key := by
  unfold leadsTo
  split
  · rename_i h k
    simp only [Bool.and_eq_true, beq_iff_eq, member.injEq, name.injEq]
    constructor
    · rintro ⟨rfl, rfl⟩
      exact ⟨k, ⟨rfl, rfl⟩, rfl⟩
    · rintro ⟨k, ⟨rfl, rfl⟩, rfl⟩
      exact ⟨rfl, rfl⟩
  · rename_i hp
    refine iff_of_false Bool.false_ne_true ?_
    rintro ⟨k, rfl, -⟩
    exact hp home k rfl

inductive From (home k : String) : KeyPath → Prop
  | here : From home k (member (name home) k)
  | member {p : KeyPath} (h : From home k p) (key : String) : From home k (member p key)
  | item {p : KeyPath} (h : From home k p) (index : Int) : From home k (item p index)

theorem From.exists_change {home k : String} {p : KeyPath} (h : From home k p)
    (f : Tree → Tree) (t : Tree) : ∃ g, p.change f t = t.changeMember home (changeMember k g) := by
  induction h generalizing f with
  | here => exact ⟨f, rfl⟩
  | member _ key ih => exact ih _
  | item _ index ih => exact ih _

theorem From.exists_put {home k : String} {p : KeyPath} (h : From home k p)
    (hbelow : p ≠ .member (name home) k) (value t : Tree) :
    ∃ g, p.put value t = t.changeMember home (changeMember k g) := by
  cases h with
  | here => exact absurd rfl hbelow
  | member h key => exact h.exists_change _ t
  | item h index => exact h.exists_change _ t

/-- A path into a section that names neither the section itself nor something below a setting. -/
def Proper (p : KeyPath) (home : SectionName) : Prop :=
  ∃ k, From home.key k p ∧
    (p = .member (name home.key) k ∨ ∀ s : Setting, s.home = home → s.key ≠ k)

theorem proper_of_member {p : KeyPath} {home k : String} (hp : p = .member (name home) k)
    {inside : SectionName} (htop : p.top = inside.key) : p.Proper inside := by
  subst hp
  obtain rfl : home = inside.key := htop
  exact ⟨k, .here, .inl rfl⟩

end KeyPath

open KeyPath

theorem Layer.apply_cons (m : String × Tree) (layer : Layer) (t : Tree) :
    Layer.apply (m :: layer) t = layer.apply ((ofName m.1).put m.2 t) :=
  rfl

theorem ofName_section (name : SectionName) : ofName name.key = .name name.key := by
  cases name <;> decide

theorem lower_section (name : SectionName) : Text.lower name.key = name.key := by
  cases name <;> decide

def Sectioned (t : Tree) : Prop :=
  ∀ name : SectionName, ∀ inner, t.get? name.key = some inner → inner.isTable = true

structure Layer.OfTables (layer : Layer) : Prop where
  distinct : Distinct layer
  names : ∀ m ∈ layer, ∀ name : SectionName, (ofName m.1).top = name.key → m.1 = name.key
  sections : ∀ m ∈ layer, ∀ name : SectionName, m.1 = name.key → ∃ origin members,
    m.2 = .table origin members ∧ Distinct members ∧ ∀ n ∈ members, Text.lower n.1 = n.1

namespace Layer.OfTables

variable {layer : Layer}

theorem rest {m : String × Tree} (h : OfTables (m :: layer)) : OfTables layer where
  distinct := (List.nodup_cons.mp h.distinct).2
  names n hn := h.names n (List.mem_cons_of_mem _ hn)
  sections n hn := h.sections n (List.mem_cons_of_mem _ hn)

theorem get?_apply (h : OfTables layer) (t : Tree) (name : SectionName) :
    (layer.apply t).get? name.key = laid (layer.lookup name.key) (t.get? name.key) := by
  induction layer generalizing t with
  | nil => rfl
  | cons m layer ih =>
    obtain ⟨k, v⟩ := m
    rw [apply_cons, ih h.rest, List.lookup_cons]
    by_cases hkey : name.key = k
    · subst hkey
      have hnone := not_mem_keys_iff.mp (List.nodup_cons.mp h.distinct).1
      rw [hnone, beq_self_eq_true, ofName_section, KeyPath.put, get?_lay, lower_section,
        if_pos rfl]
      rfl
    · have hbeq : (name.key == k) = false := beq_eq_false_iff_ne.mpr hkey
      have htop : name.key ≠ (ofName k).top :=
        fun htop => hkey (h.names _ List.mem_cons_self name htop.symm).symm
      rw [hbeq, get?_put_of_ne htop]

theorem isTable_of_lookup (h : OfTables layer) {name : SectionName} {v : Tree}
    (hv : layer.lookup name.key = some v) : ∃ origin members, v = .table origin members ∧
      Distinct members ∧ ∀ n ∈ members, Text.lower n.1 = n.1 :=
  h.sections _ (mem_of_lookup hv) name rfl

theorem sectioned (h : OfTables layer) {t : Tree} (ht : Sectioned t) :
    Sectioned (layer.apply t) := by
  intro name inner hinner
  rw [h.get?_apply] at hinner
  cases hv : layer.lookup name.key with
  | none =>
    rw [hv] at hinner
    exact ht name inner hinner
  | some v =>
    obtain ⟨origin, members, rfl, -, -⟩ := h.isTable_of_lookup hv
    rw [hv] at hinner
    obtain rfl := Option.some.inj hinner
    rw [overlay]
    apply isTable_overlayAll
    cases hold : t.get? name.key with
    | none => rfl
    | some old => exact ht name old hold

theorem value?_apply (h : OfTables layer) (t : Tree) (s : Setting) :
    (layer.apply t).value? s =
      laid ((layer.lookup s.home.key).bind fun v => v.get? s.key) (t.value? s) := by
  rw [value?, value?, h.get?_apply]
  cases hv : layer.lookup s.home.key with
  | none => rfl
  | some v =>
    obtain ⟨origin, members, rfl, hdistinct, hlower⟩ := h.isTable_of_lookup hv
    rw [laid, Option.bind_some, Option.bind_some, overlay, get?_overlayAll hdistinct hlower]
    cases t.get? s.home.key <;> rfl

end Layer.OfTables

structure Layer.OfVariables (layer : Layer) : Prop where
  scalars : ∀ m ∈ layer, ∃ origin value, m.2 = .scalar origin value
  names : ∀ m ∈ layer, ∀ name : SectionName, (ofName m.1).top = name.key → (ofName m.1).Proper name

namespace Layer.OfVariables

variable {layer : Layer} {s : Setting}

theorem rest {m : String × Tree} (h : OfVariables (m :: layer)) : OfVariables layer where
  scalars n hn := h.scalars n (List.mem_cons_of_mem _ hn)
  names n hn := h.names n (List.mem_cons_of_mem _ hn)

theorem sectioned (h : OfVariables layer) {t : Tree} (ht : Sectioned t) :
    Sectioned (layer.apply t) := by
  induction layer generalizing t with
  | nil => exact ht
  | cons m layer ih =>
    rw [apply_cons]
    apply ih h.rest
    intro name inner hinner
    by_cases htop : name.key = (ofName m.1).top
    · obtain ⟨k, hfrom, -⟩ := h.names m List.mem_cons_self name htop.symm
      by_cases hp : ofName m.1 = .member (.name name.key) k
      · rw [hp, get?_put_member] at hinner
        obtain rfl := Option.some.inj hinner
        exact isTable_put _ _ _
      · obtain ⟨g, hput⟩ := hfrom.exists_put hp m.2 t
        rw [hput, changeMember, get?_put, if_pos rfl] at hinner
        obtain rfl := Option.some.inj hinner
        exact isTable_put _ _ _
    · rw [get?_put_of_ne htop] at hinner
      exact ht name inner hinner

theorem value?_put (h : OfVariables layer) {m : String × Tree} (hm : m ∈ layer)
    (hleads : (ofName m.1).leadsTo s.home.key s.key) (t : Tree) :
    ((ofName m.1).put m.2 t).value? s = some m.2 := by
  obtain ⟨origin, value, hvalue⟩ := h.scalars m hm
  obtain ⟨k, hp, hk⟩ := leadsTo_iff.mp hleads
  have hscalar : m.2.isTable = false := by rw [hvalue]; rfl
  rw [hp, value?, get?_put_member, Option.bind_some, get?_lay, hk, if_pos rfl,
    overlay_of_not_table hscalar]

theorem value?_put_of_not (h : OfVariables layer) {m : String × Tree} (hm : m ∈ layer)
    (hleads : ¬(ofName m.1).leadsTo s.home.key s.key) (t : Tree) :
    ((ofName m.1).put m.2 t).value? s = t.value? s := by
  -- In its section the path leads to another setting, or below a name that is not a setting.
  by_cases htop : s.home.key = (ofName m.1).top
  · obtain ⟨k, hfrom, hother⟩ := h.names m hm s.home htop.symm
    by_cases hp : ofName m.1 = .member (.name s.home.key) k
    · have hkey : s.key ≠ Text.lower k := fun hkey => hleads (leadsTo_iff.mpr ⟨k, hp, hkey.symm⟩)
      rw [hp, value?, get?_put_member, Option.bind_some, get?_lay, if_neg hkey, value?]
      cases t.get? s.home.key <;> rfl
    · obtain ⟨g, hput⟩ := hfrom.exists_put hp m.2 t
      have hkey : s.key ≠ k := hother.resolve_left hp s rfl
      rw [hput, value?, changeMember, get?_put, if_pos rfl, Option.bind_some, changeMember,
        get?_put, if_neg hkey, value?]
      cases t.get? s.home.key <;> rfl
  · rw [value?, value?, get?_put_of_ne htop]

theorem value?_apply_of_not (h : OfVariables layer)
    (hleads : ∀ m ∈ layer, ¬(ofName m.1).leadsTo s.home.key s.key) (t : Tree) :
    (layer.apply t).value? s = t.value? s := by
  induction layer generalizing t with
  | nil => rfl
  | cons m layer ih =>
    obtain ⟨hm, hleads⟩ := List.forall_mem_cons.mp hleads
    rw [apply_cons, ih h.rest hleads, h.value?_put_of_not List.mem_cons_self hm]

theorem value?_apply (h : OfVariables layer) {v : Tree}
    (hleads : ∃ m ∈ layer, (ofName m.1).leadsTo s.home.key s.key)
    (hsame : ∀ m ∈ layer, (ofName m.1).leadsTo s.home.key s.key → m.2 = v) (t : Tree) :
    (layer.apply t).value? s = some v := by
  induction layer generalizing t with
  | nil => simp at hleads
  | cons m layer ih =>
    obtain ⟨hm, hsame⟩ := List.forall_mem_cons.mp hsame
    rw [apply_cons]
    -- A later variable for the setting decides. Without one this one does, and the rest keeps it.
    by_cases hlater : ∃ n ∈ layer, (ofName n.1).leadsTo s.home.key s.key
    · exact ih h.rest hlater hsame _
    · have hnot : ∀ n ∈ layer, ¬(ofName n.1).leadsTo s.home.key s.key :=
        fun n hn hleads => hlater ⟨n, hn, hleads⟩
      have hfirst : (ofName m.1).leadsTo s.home.key s.key := by
        obtain ⟨n, hn, hleads⟩ := hleads
        rcases List.mem_cons.mp hn with rfl | hn
        · exact hleads
        · exact absurd hleads (hnot n hn)
      rw [h.rest.value?_apply_of_not hnot, h.value?_put List.mem_cons_self hfirst, hm hfirst]

end Layer.OfVariables

namespace Environment

theorem layer_concat (env : Environment) (v : String × String) :
    layer (env ++ [v]) = match settingName? v.1 with
      | none => layer env
      | some key => put key (.scalar origin (meaning v.2)) (layer env) := by
  rw [layer, List.foldl_append]
  rfl

theorem mem_layer {env : Environment} {m : String × Tree} (h : m ∈ layer env) :
    ∃ v ∈ env, settingName? v.1 = some m.1 ∧ m.2 = .scalar origin (meaning v.2) := by
  induction env using List.reverseRecOn with
  | nil => cases h
  | append_singleton env v ih =>
    have hearlier (h : m ∈ layer env) : ∃ v' ∈ env ++ [v], settingName? v'.1 = some m.1 ∧
        m.2 = .scalar origin (meaning v'.2) := by
      obtain ⟨v', hv', hm⟩ := ih h
      exact ⟨v', List.mem_append_left _ hv', hm⟩
    rw [layer_concat] at h
    split at h
    · exact hearlier h
    · rename_i key hkey
      rcases mem_put h with rfl | h
      · exact ⟨v, by simp, hkey, rfl⟩
      · exact hearlier h

theorem exists_lookup_layer {env : Environment} {v : String × String} (hv : v ∈ env)
    {key : String} (hkey : settingName? v.1 = some key) : ∃ t, (layer env).lookup key = some t := by
  induction env using List.reverseRecOn with
  | nil => cases hv
  | append_singleton env w ih =>
    rw [layer_concat]
    rcases List.mem_append.mp hv with hv | hv
    · split
      · exact ih hv
      · rename_i other _
        by_cases hsame : key = other
        · subst hsame
          exact ⟨_, lookup_put_self _ _ _⟩
        · obtain ⟨t, ht⟩ := ih hv
          exact ⟨t, (lookup_put_of_ne hsame _ _).trans ht⟩
    · obtain rfl := List.mem_singleton.mp hv
      rw [hkey]
      exact ⟨_, lookup_put_self _ _ _⟩

end Environment

theorem exists_section {t : Tree} (ht : Sectioned t) (name : SectionName) :
    ∃ inner, sectionOf name t = .ok inner ∧ ∀ (s : Setting) (place : Nat), s.home = name →
      inner.value? s.key place = (t.value? s).map (s.path, ·) := by
  rw [sectionOf]
  cases h : t.get? name.key with
  | none =>
    refine ⟨_, rfl, ?_⟩
    rintro s place rfl
    rw [value?, h]
    rfl
  | some inner =>
    have htable := ht name inner h
    cases inner with
    | table origin members =>
      refine ⟨_, rfl, ?_⟩
      rintro s place rfl
      rw [value?, h]
      rfl
    | _ => cases htable

theorem read_eq_assemble {t : Tree} (ht : Sectioned t) :
    read t = assemble t.value? := by
  obtain ⟨server, hserver, hservers⟩ := exists_section ht .server
  obtain ⟨database, hdatabase, hdatabases⟩ := exists_section ht .database
  obtain ⟨logging, hlogging, hloggings⟩ := exists_section ht .logging
  have hok {α β : Type} (a : α) (f : α → Result β) : (Except.ok a >>= f) = f a := rfl
  have hbind {α β : Type} {x y : Result α} {f g : α → Result β} (h : x = y)
      (hf : ∀ a, f a = g a) : x >>= f = y >>= g := by
    rw [h, funext hf]
  have hsettle (s : Setting) (inner : Section) (place : Nat) (t' : Option Tree)
      (h : inner.value? s.key place = t'.map (s.path, ·)) (take : String → Tree → Result s.Value)
      (htake : take s.path = s.take) :
      inner.read s.key place take (s.get {}) = s.settle t' := by
    rw [Section.read, h]
    cases t' with
    | none => rfl
    | some v => exact congrFun htake v
  have hhost := hsettle .host server 0 _ (hservers _ _ rfl) text rfl
  have hport := hsettle .port server 1 _ (hservers _ _ rfl) uint16 rfl
  have htimeout := hsettle .requestTimeoutSecs server 2 _ (hservers _ _ rfl) uint64 rfl
  have hbackend := hsettle .backend database 0 _ (hdatabases _ _ rfl) (fun _ => backend) rfl
  have hurl := hsettle .url database 1 _ (hdatabases _ _ rfl) text rfl
  have hmax := hsettle .maxConnections database 2 _ (hdatabases _ _ rfl) uint32 rfl
  have hmin := hsettle .minConnections database 3 _ (hdatabases _ _ rfl) uint32 rfl
  have hmigrate := hsettle .runMigrations database 4 _ (hdatabases _ _ rfl) boolean rfl
  have hlevel := hsettle .level logging 0 _ (hloggings _ _ rfl) text rfl
  have hformat := hsettle .format logging 1 _ (hloggings _ _ rfl) text rfl
  rw [read, readServer, readDatabase, readLogging, hserver, hdatabase, hlogging, assemble]
  simp only [hok, bind_assoc, pure_bind]
  exact hbind hhost fun _ => hbind hport fun _ => hbind htimeout fun _ => hbind hbackend fun _ =>
    hbind hurl fun _ => hbind hmax fun _ => hbind hmin fun _ => hbind hmigrate fun _ =>
    hbind hlevel fun _ => hbind hformat fun _ => rfl

end CardDesk.Settings
