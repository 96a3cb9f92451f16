import CardDesk.Proofs.Settings.Layers
import CardDesk.Settings.Load

/-!
Which source each setting is taken from. Of the address variable, the environment, the file of the
mode and the file of defaults the first that has a setting decides on it, whatever the others say of
it and whatever it says of other settings.
-/

namespace CardDesk.Settings

open Keyed KeyPath Settings.Tree

namespace Environment

def sets (s : Setting) (name : String) : Bool :=
  (settingName? name).any fun key => (ofName key).leadsTo s.home.key s.key

def value? (env : Environment) (s : Setting) : Option Tree :=
  (env.find? fun v => sets s v.1).map fun v => .scalar origin (meaning v.2)

structure OfSettings (env : Environment) : Prop where
  names : ∀ v ∈ env, ∀ key, settingName? v.1 = some key → ∀ name : SectionName,
    (ofName key).top = name.key → (ofName key).Proper name
  single : ∀ s, ∀ v ∈ env, ∀ w ∈ env, sets s v.1 → sets s w.1 → v = w

theorem sets_iff {s : Setting} {name : String} :
    sets s name ↔ ∃ key, settingName? name = some key ∧ (ofName key).leadsTo s.home.key s.key := by
  rw [sets, Option.any_eq_true]

theorem OfSettings.layer {env : Environment} (h : OfSettings env) :
    (Environment.layer env).OfVariables where
  scalars m hm := by
    obtain ⟨v, -, -, hvalue⟩ := mem_layer hm
    exact ⟨_, _, hvalue⟩
  names m hm := by
    obtain ⟨v, hv, hkey, -⟩ := mem_layer hm
    exact h.names v hv m.1 hkey

theorem OfSettings.value?_apply {env : Environment} (h : OfSettings env) (t : Tree)
    (s : Setting) :
    (Layer.apply (Environment.layer env) t).value? s =
      (env.value? s).or (t.value? s) := by
  rw [value?]
  cases hfind : env.find? fun v => sets s v.1 with
  | none =>
    apply h.layer.value?_apply_of_not
    intro m hm hleads
    obtain ⟨v, hv, hkey, -⟩ := mem_layer hm
    exact List.find?_eq_none.mp hfind v hv (sets_iff.mpr ⟨m.1, hkey, hleads⟩)
  | some v =>
    have hv := List.mem_of_find?_eq_some hfind
    have hsets := List.find?_some hfind
    obtain ⟨key, hkey, hleads⟩ := sets_iff.mp hsets
    obtain ⟨value, hlookup⟩ := exists_lookup_layer hv hkey
    refine h.layer.value?_apply ⟨_, mem_of_lookup hlookup, hleads⟩ ?_ t
    intro m hm hleads
    obtain ⟨w, hw, hname, hvalue⟩ := mem_layer hm
    obtain rfl := h.single s v hv w hw hsets (sets_iff.mpr ⟨m.1, hname, hleads⟩)
    exact hvalue

end Environment

theorem addressLayer_ofVariables (env : Environment) : (addressLayer env).OfVariables := by
  rw [addressLayer]
  cases env.lookup "DATABASE_URL" with
  | none => exact ⟨by simp, by simp⟩
  | some url =>
    have hpath : ofName "database.url" = .member (.name "database") "url" := by decide
    refine ⟨by simp, fun m hm name htop => ?_⟩
    obtain rfl := List.mem_singleton.mp hm
    exact proper_of_member hpath htop

def address? (env : Environment) (s : Setting) : Option Tree :=
  if s = .url then (env.lookup "DATABASE_URL").map fun url => .scalar none (.text url) else none

theorem value?_addressLayer (env : Environment) (t : Tree) (s : Setting) :
    ((addressLayer env).apply t).value? s =
      (address? env s).or (t.value? s) := by
  have hlayer := addressLayer_ofVariables env
  have hleads : (ofName "database.url").leadsTo s.home.key s.key ↔ s = .url := by
    cases s <;> decide
  rw [address?]
  rw [addressLayer] at hlayer ⊢
  cases hurl : env.lookup "DATABASE_URL" with
  | none => simp [Layer.apply]
  | some url =>
    rw [hurl] at hlayer
    by_cases hs : s = .url
    · rw [if_pos hs]
      apply hlayer.value?_apply ⟨_, List.mem_singleton_self _, hleads.mpr hs⟩
      simp
    · rw [if_neg hs]
      apply hlayer.value?_apply_of_not
      intro m hm hm'
      rw [List.mem_singleton.mp hm] at hm'
      exact hs (hleads.mp hm')

def inDocument? (d : Document) (key : String) : Option Document :=
  match d with
  | .table members => members.lookup key
  | _ => none

def tomlPath (name : String) : Path :=
  ["config", name ++ "." ++ "toml"]

def fileValue? (f : Folder) (name : String) (s : Setting) : Option Tree := do
  let text ← f.text? (tomlPath name)
  let members ← Toml.read? (withoutMark text)
  let inner ← members.lookup s.home.key
  (inDocument? inner s.key).map (ofDocument (some (writePath (tomlPath name))))

/-- Members in lower case of which those for sections are tables, and the others no paths into
sections. -/
structure OfSections (members : Document.Members) : Prop where
  lower : ∀ m ∈ members, Text.lower m.1 = m.1
  names : ∀ m ∈ members, ∀ name : SectionName, (ofName m.1).top = name.key → m.1 = name.key
  sections : ∀ m ∈ members, ∀ name : SectionName, m.1 = name.key → ∃ inner, m.2 = .table inner ∧
    ∀ n ∈ inner, Text.lower n.1 = n.1

/-- A file that there is in TOML or not at all, and that is well formed if there is one. -/
structure PlainFile (f : Folder) (name : String) : Prop where
  named : name ≠ "" ∧ name ≠ "." ∧ name ≠ ".." ∧ '/' ∉ name.toList
  alone : f.text? ["config", name] = none
  others : ∀ x ∈ extensions, x.1 ≠ "toml" → f.text? ["config", name ++ "." ++ x.1] = none
  wellFormed : ∀ text, f.text? (tomlPath name) = some text →
    ∃ members, Toml.read? (withoutMark text) = some members ∧ OfSections members

theorem lookup_ofMembers (origin : Origin) (members : Document.Members) (key : String) :
    (ofMembers origin members).lookup key = (members.lookup key).map (ofDocument origin) := by
  induction members with
  | nil => rw [ofMembers]; rfl
  | cons m rest ih =>
    obtain ⟨k, d⟩ := m
    rw [ofMembers, List.lookup_cons, List.lookup_cons, ih]
    cases key == k <;> rfl

theorem mem_ofMembers {origin : Origin} {members : Document.Members} {m : String × Tree}
    (h : m ∈ ofMembers origin members) : ∃ d, (m.1, d) ∈ members ∧ m.2 = ofDocument origin d := by
  induction members with
  | nil =>
    rw [ofMembers] at h
    cases h
  | cons n rest ih =>
    obtain ⟨k, d⟩ := n
    rw [ofMembers] at h
    rcases List.mem_cons.mp h with rfl | h
    · exact ⟨d, List.mem_cons_self, rfl⟩
    · obtain ⟨d', hd', hm⟩ := ih h
      exact ⟨d', List.mem_cons_of_mem _ hd', hm⟩

theorem distinct_ofMembers (origin : Origin) {members : Document.Members}
    (h : Distinct members) : Distinct (ofMembers origin members) := by
  have hkeys : (ofMembers origin members).map Prod.fst = members.map Prod.fst := by
    clear h
    induction members with
    | nil => rw [ofMembers]; rfl
    | cons m rest ih =>
      obtain ⟨k, d⟩ := m
      rw [ofMembers, List.map_cons, List.map_cons, ih]
  rwa [Distinct, hkeys]

theorem get?_ofDocument (origin : Origin) (d : Document) (key : String) :
    (ofDocument origin d).get? key = (inDocument? d key).map (ofDocument origin) := by
  cases d with
  | table members =>
    rw [ofDocument, get?, lookup_ofMembers]
    rfl
  | _ => rw [ofDocument]; rfl

theorem OfSections.layer {members : Document.Members} (h : OfSections members)
    (hdistinct : Distinct members) (hsingle : ∀ m ∈ members, m.2.Single) (origin : Origin) :
    Layer.OfTables (ofMembers origin members) where
  distinct := distinct_ofMembers origin hdistinct
  names m hm := by
    obtain ⟨d, hd, -⟩ := mem_ofMembers hm
    exact h.names (m.1, d) hd
  sections m hm name hname := by
    obtain ⟨d, hd, htree⟩ := mem_ofMembers hm
    obtain ⟨inner, rfl, hlower⟩ := h.sections (m.1, d) hd name hname
    have hinner : Distinct inner := hsingle (m.1, .table inner) hd
    rw [ofDocument] at htree
    refine ⟨origin, ofMembers origin inner, htree, distinct_ofMembers origin hinner, ?_⟩
    intro n hn
    obtain ⟨d, hd, -⟩ := mem_ofMembers hn
    exact hlower (n.1, d) hd

theorem parts_config {name : String} (h : name ≠ "") (hdot : name ≠ ".")
    (hslash : '/' ∉ name.toList) : Folder.parts ("config/" ++ name) = ["config", name] := by
  have hlist : ("config/" ++ name).toList = "config".toList ++ '/' :: name.toList := by
    rw [String.toList_append]
    rfl
  have hfirst : "config".toList.splitOn '/' = ["config".toList] := by decide
  rw [Folder.parts, hlist, List.splitOn_append_cons_self, hfirst, List.splitOn_eq_singleton hslash]
  simp [h, hdot]

theorem PlainFile.source? {f : Folder} {name : String} (h : PlainFile f name) :
    Settings.source? f ("config/" ++ name) =
      (f.text? (tomlPath name)).map fun text => ⟨writePath (tomlPath name), .toml, text⟩ := by
  obtain ⟨hempty, hdot, hup, hslash⟩ := h.named
  have hjson := h.others ("json", .json) (by simp [extensions]) (by decide)
  have hyaml := h.others ("yaml", .yaml) (by simp [extensions]) (by decide)
  have hyml := h.others ("yml", .yaml) (by simp [extensions]) (by decide)
  have hini := h.others ("ini", .ini) (by simp [extensions]) (by decide)
  have hron := h.others ("ron", .ron) (by simp [extensions]) (by decide)
  have hjson5 := h.others ("json5", .json5) (by simp [extensions]) (by decide)
  have hextended : extended? f ["config"] name =
      (f.text? (tomlPath name)).map fun text => ⟨writePath (tomlPath name), .toml, text⟩ := by
    simp only [extended?, extensions, List.findSome?, List.cons_append, List.nil_append]
    rw [hjson, hyaml, hyml, hini, hron, hjson5, tomlPath]
    cases f.text? ["config", name ++ "." ++ "toml"] <;> rfl
  rw [Settings.source?, parts_config hempty hdot hslash]
  simp [hup, h.alone, hextended]

theorem PlainFile.layer {f : Folder} {name : String} (h : PlainFile f name) :
    ∃ layer : Layer, fileLayer f ("config/" ++ name) = .ok layer ∧ layer.OfTables ∧
      ∀ s : Setting, ((layer.lookup s.home.key).bind fun v => v.get? s.key) =
        fileValue? f name s := by
  simp only [fileLayer, h.source?, fileValue?]
  cases htext : f.text? (tomlPath name) with
  | none => exact ⟨[], rfl, ⟨List.nodup_nil, by simp, by simp⟩, fun s => rfl⟩
  | some text =>
    obtain ⟨members, hmembers, hsections⟩ := h.wellFormed text htext
    obtain ⟨hdistinct, hsingle⟩ := Toml.read?_distinct hmembers
    have hread : Format.toml.read? (withoutMark text) = some members := hmembers
    refine ⟨_, ?_, hsections.layer hdistinct hsingle (some (writePath (tomlPath name))), ?_⟩
    · simp only [Option.map_some, hread]
    · intro s
      rw [lookup_ofMembers]
      cases hinner : members.lookup s.home.key with
      | none => simp [hmembers, hinner]
      | some inner => simp [hmembers, hinner, get?_ofDocument]

structure Sources where
  address : Option Tree
  environment : Option Tree
  mode : Option Tree
  defaults : Option Tree

def modeName (env : Environment) : String :=
  (env.lookup "RUN_MODE").getD "development"

def sources (env : Environment) (f : Folder) (s : Setting) : Sources :=
  ⟨address? env s, env.value? s, fileValue? f (modeName env) s, fileValue? f "default" s⟩

namespace Sources

/-- The value that counts. A table in a file is laid over what the file below it has; any other
value counts alone. -/
def winner (x : Sources) : Option Tree :=
  x.address.or (x.environment.or (laid x.mode (laid x.defaults none)))

/-- Sources that differ only in what a source before them overrides. -/
inductive Alike : Sources → Sources → Prop
  | address (v : Tree) (e e' m m' d d' : Option Tree) :
    Alike ⟨some v, e, m, d⟩ ⟨some v, e', m', d'⟩
  | environment (v : Tree) (m m' d d' : Option Tree) :
    Alike ⟨none, some v, m, d⟩ ⟨none, some v, m', d'⟩
  | mode (v : Tree) (d d' : Option Tree) (hv : v.isTable = false) :
    Alike ⟨none, none, some v, d⟩ ⟨none, none, some v, d'⟩
  | same (x : Sources) : Alike x x

theorem Alike.winner_eq {x y : Sources} (h : Alike x y) : x.winner = y.winner := by
  cases h with
  | address => rfl
  | environment => rfl
  | mode v d d' hv => simp [winner, laid, overlay_of_not_table hv]
  | same => rfl

end Sources

structure Plain (env : Environment) (f : Folder) : Prop where
  environment : env.OfSettings
  mode : PlainFile f (modeName env)
  defaults : PlainFile f "default"

theorem load_eq_assemble {env : Environment} {f : Folder} (h : Plain env f) :
    load env f = assemble fun s => (sources env f s).winner := by
  obtain ⟨defaults, hdefaults, hdefaultTables, hdefaultValues⟩ := h.defaults.layer
  obtain ⟨mode, hmode, hmodeTables, hmodeValues⟩ := h.mode.layer
  have hnothing : Sectioned (.table none []) := by simp [Sectioned, Tree.get?]
  have hfiles := hmodeTables.sectioned (hdefaultTables.sectioned hnothing)
  have hvariables := h.environment.layer.sectioned hfiles
  have hall := (addressLayer_ofVariables env).sectioned hvariables
  have hload : load env f = read ((addressLayer env).apply ((Environment.layer env).apply
      (mode.apply (defaults.apply (.table none []))))) := by
    have hfile : defaultFile = "config/" ++ "default" := by decide
    rw [load, hfile, hdefaults, modeFile]
    change (fileLayer f ("config/" ++ modeName env) >>= _) = _
    rw [hmode]
    rfl
  have hwinner (s : Setting) : ((addressLayer env).apply ((Environment.layer env).apply
      (mode.apply (defaults.apply (.table none []))))).value? s =
        (sources env f s).winner := by
    rw [value?_addressLayer, h.environment.value?_apply, hmodeTables.value?_apply,
      hdefaultTables.value?_apply, hmodeValues, hdefaultValues]
    rfl
  rw [hload, read_eq_assemble hall, ← funext hwinner]

/-- Each setting is settled by the first source that has it, and by nothing else. -/
theorem highest_source_wins {env : Environment} {f : Folder} (h : Plain env f) :
    (∀ s : Setting, Environment.sets s s.variableName) ∧
    (∀ c, load env f = .ok c ↔
      ∀ s : Setting, s.settle (sources env f s).winner = .ok (s.get c)) ∧
    ((∃ e, load env f = .error e) ↔ ∃ (s : Setting) (t : Tree),
      (sources env f s).winner = some t ∧ ∀ v, s.take t ≠ .ok v) ∧
    (∀ url c, env.lookup "DATABASE_URL" = some url → load env f = .ok c → c.database.url = url) ∧
    ∀ env' f', Plain env' f' → (∀ s, (sources env f s).Alike (sources env' f' s)) →
      load env' f' = load env f := by
  have hload := load_eq_assemble h
  have hok (c : Settings) : load env f = .ok c ↔
      ∀ s : Setting, s.settle (sources env f s).winner = .ok (s.get c) := by
    rw [hload, assemble_eq_ok_iff]
  refine ⟨?_, hok, ?_, ?_, ?_⟩
  · intro s
    cases s <;> decide
  · rw [hload, assemble_eq_error_iff]
  · intro url c hurl hc
    have hs := (hok c).mp hc .url
    simp only [sources, address?, hurl] at hs
    exact (Except.ok.inj hs).symm
  · intro env' f' h' halike
    have hsame : (fun s => (sources env' f' s).winner) = fun s => (sources env f s).winner :=
      funext fun s => (halike s).winner_eq.symm
    rw [load_eq_assemble h', hload, hsame]

def isSection (m : String × Document) : Bool :=
  ["server", "database", "logging"].contains m.1 &&
    match m.2 with
    | .table inner => inner.all fun n => Text.lower n.1 = n.1
    | _ => false

theorem ofSections_of_all {members : Document.Members} (h : members.all isSection = true) :
    OfSections members := by
  have hsection (m) (hm : m ∈ members) : (∃ name : SectionName, m.1 = name.key) ∧
      ∃ inner, m.2 = .table inner ∧ ∀ n ∈ inner, Text.lower n.1 = n.1 := by
    obtain ⟨k, d⟩ := m
    have hcheck := List.all_eq_true.mp h _ hm
    rw [isSection, Bool.and_eq_true] at hcheck
    obtain ⟨hkey, htable⟩ := hcheck
    constructor
    · simp only [List.contains_eq_mem, List.mem_cons, List.not_mem_nil, or_false,
        decide_eq_true_eq] at hkey
      rcases hkey with hkey | hkey | hkey
      · exact ⟨.server, hkey⟩
      · exact ⟨.database, hkey⟩
      · exact ⟨.logging, hkey⟩
    · cases d with
      | table inner => exact ⟨inner, rfl, by simpa using htable⟩
      | _ => cases htable
  constructor
  case lower =>
    intro m hm
    obtain ⟨⟨name, hname⟩, -⟩ := hsection m hm
    rw [hname, lower_section]
  case names =>
    intro m hm name htop
    obtain ⟨⟨name', hname⟩, -⟩ := hsection m hm
    rwa [hname, ofName_section, top, lower_section, ← hname] at htop
  case sections => exact fun m hm _ _ => (hsection m hm).2

theorem plainFile_of_read {f : Folder} {name text : String}
    (hnamed : name ≠ "" ∧ name ≠ "." ∧ name ≠ ".." ∧ '/' ∉ name.toList)
    (halone : f.text? ["config", name] = none)
    (hothers : ∀ x ∈ extensions, x.1 ≠ "toml" → f.text? ["config", name ++ "." ++ x.1] = none)
    (htext : f.text? (tomlPath name) = some text)
    (hread : (Toml.read? (withoutMark text)).any (List.all · isSection) = true) :
    PlainFile f name where
  named := hnamed
  alone := halone
  others := hothers
  wellFormed other hother := by
    obtain rfl := Option.some.inj (htext.symm.trans hother)
    cases hmembers : Toml.read? (withoutMark text) with
    | none =>
      rw [hmembers] at hread
      cases hread
    | some members =>
      rw [hmembers] at hread
      exact ⟨members, rfl, ofSections_of_all hread⟩

/-- Variables over a value that would not do and over a default, a file over another one, and an
empty address. -/
theorem highest_source_wins_of_four :
    let env : Environment := [("RUN_MODE", "prod"), ("CARDS_SERVER__PORT", "9100"),
      ("CARDS_DATABASE__RUN_MIGRATIONS", "false"), ("DATABASE_URL", "")]
    let defaults := "[server]\nhost = \"h\"\nport = \"x\"\nrequest_timeout_secs = 45\n" ++
      "[database]\nmax_connections = 3\n"
    let mode := "[server]\nhost = \"g\"\n[database]\nbackend = \"memory\"\nmax_connections = 7\n"
    let f : Folder := .ofFiles [("config/default.toml", defaults), ("config/prod.toml", mode)]
    let c : Settings :=
      { server := { host := "g", port := 9100, requestTimeoutSecs := 45 }
        database := { backend := .memory, url := "", maxConnections := 7, runMigrations := false } }
    Plain env f ∧ load env f = .ok c ∧
      ∀ s : Setting, s.settle (sources env f s).winner = .ok (s.get c) := by
  intro env defaults mode f c
  have hport : Environment.settingName? "CARDS_SERVER__PORT" = some "server.port" := by decide
  have hportPath : ofName "server.port" = .member (.name "server") "port" := by decide
  have hrun : Environment.settingName? "CARDS_DATABASE__RUN_MIGRATIONS" =
      some "database.run_migrations" := by decide
  have hrunPath : ofName "database.run_migrations" =
      .member (.name "database") "run_migrations" := by decide
  have henv : env.OfSettings := by
    refine ⟨fun v hv key hkey name htop => ?_, fun s => by cases s <;> decide⟩
    have hall : ∀ v ∈ env, v.1 = "CARDS_SERVER__PORT" ∨ v.1 = "CARDS_DATABASE__RUN_MIGRATIONS" ∨
        Environment.settingName? v.1 = none := by
      decide
    rcases hall v hv with hname | hname | hname
    · rw [hname, hport] at hkey
      cases hkey
      exact proper_of_member hportPath htop
    · rw [hname, hrun] at hkey
      cases hkey
      exact proper_of_member hrunPath htop
    · rw [hname] at hkey
      cases hkey
  have hplain : Plain env f := by
    refine ⟨henv, ?_, ?_⟩
    · exact plainFile_of_read (by decide) (by decide) (by decide) rfl (by decide +kernel)
    · exact plainFile_of_read (by decide) (by decide) (by decide) rfl (by decide +kernel)
  have hload : load env f = .ok c := by decide +kernel
  exact ⟨hplain, hload, ((highest_source_wins hplain).2.1 c).mp hload⟩

def isMember (key : String) (n : Int) : Option Document.Members → Bool
  | some [(k, .integer m)] => k = key && m = n
  | _ => false

theorem eq_of_isMember {key : String} {n : Int} {members : Option Document.Members}
    (h : isMember key n members = true) : members = some [(key, .integer n)] := by
  unfold isMember at h
  split at h
  · simp only [Bool.and_eq_true, decide_eq_true_eq] at h
    rw [h.1, h.2]
  · cases h

/-- A table in one file does not take the place of a table in another, and a key in quotes may be
a path into a section. -/
theorem tables_and_paths_merged :
    let f : Folder := .ofFiles [("config/default.toml", "[database.backend]\npostgres = 1\n"),
      ("config/development.toml", "[database.backend]\nmemory = 1\n")]
    let g : Folder := .ofFiles [("config/default.toml", "\"server.port\" = 9000\n")]
    Plain [] f ∧ (sources [] f .backend).mode.map backend = some (.ok .memory) ∧
      load [] f = .error .malformedBackend ∧
      Toml.read? "\"server.port\" = 9000\n" = some [("server.port", .integer 9000)] ∧
      (sources [] g .port).winner.isNone ∧ load [] g = .ok { server := { port := 9000 } } := by
  intro f g
  have hplain : Plain [] f := by
    refine ⟨⟨by simp, by simp⟩, ?_, ?_⟩
    · exact plainFile_of_read (by decide) (by decide) (by decide) rfl (by decide +kernel)
    · exact plainFile_of_read (by decide) (by decide) (by decide) rfl (by decide +kernel)
  exact ⟨hplain, by decide +kernel, by decide +kernel, eq_of_isMember (by decide +kernel),
    by decide +kernel, by decide +kernel⟩

end CardDesk.Settings
