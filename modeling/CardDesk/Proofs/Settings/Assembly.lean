import CardDesk.Proofs.Passes
import CardDesk.Settings.Reading
import Mathlib.Tactic.Choose
import Mathlib.Tactic.Push

namespace CardDesk.Settings

inductive Setting where
  | host
  | port
  | requestTimeoutSecs
  | backend
  | url
  | maxConnections
  | minConnections
  | runMigrations
  | level
  | format
  deriving DecidableEq

namespace Setting

def home : Setting → SectionName
  | host | port | requestTimeoutSecs => .server
  | backend | url | maxConnections | minConnections | runMigrations => .database
  | level | format => .logging

def key : Setting → String
  | host => "host"
  | port => "port"
  | requestTimeoutSecs => "request_timeout_secs"
  | backend => "backend"
  | url => "url"
  | maxConnections => "max_connections"
  | minConnections => "min_connections"
  | runMigrations => "run_migrations"
  | level => "level"
  | format => "format"

def path (s : Setting) : String :=
  s.home.key ++ "." ++ s.key

def variableName : Setting → String
  | host => "CARDS_SERVER__HOST"
  | port => "CARDS_SERVER__PORT"
  | requestTimeoutSecs => "CARDS_SERVER__REQUEST_TIMEOUT_SECS"
  | backend => "CARDS_DATABASE__BACKEND"
  | url => "CARDS_DATABASE__URL"
  | maxConnections => "CARDS_DATABASE__MAX_CONNECTIONS"
  | minConnections => "CARDS_DATABASE__MIN_CONNECTIONS"
  | runMigrations => "CARDS_DATABASE__RUN_MIGRATIONS"
  | level => "CARDS_LOGGING__LEVEL"
  | format => "CARDS_LOGGING__FORMAT"

def Value : Setting → Type
  | host | url | level | format => String
  | port => UInt16
  | requestTimeoutSecs => UInt64
  | backend => Backend
  | maxConnections | minConnections => UInt32
  | runMigrations => Bool

def get : (s : Setting) → Settings → s.Value
  | host, c => c.server.host
  | port, c => c.server.port
  | requestTimeoutSecs, c => c.server.requestTimeoutSecs
  | backend, c => c.database.backend
  | url, c => c.database.url
  | maxConnections, c => c.database.maxConnections
  | minConnections, c => c.database.minConnections
  | runMigrations, c => c.database.runMigrations
  | level, c => c.logging.level
  | format, c => c.logging.format

def take : (s : Setting) → Tree → Result s.Value
  | host, t => text (path host) t
  | port, t => uint16 (path port) t
  | requestTimeoutSecs, t => uint64 (path requestTimeoutSecs) t
  | backend, t => Settings.backend t
  | url, t => text (path url) t
  | maxConnections, t => uint32 (path maxConnections) t
  | minConnections, t => uint32 (path minConnections) t
  | runMigrations, t => boolean (path runMigrations) t
  | level, t => text (path level) t
  | format, t => text (path format) t

def settle (s : Setting) : Option Tree → Result s.Value
  | none => .ok (s.get {})
  | some t => s.take t

end Setting

def assemble (w : Setting → Option Tree) : Result Settings := do
  let host ← Setting.host.settle (w .host)
  let port ← Setting.port.settle (w .port)
  let requestTimeoutSecs ← Setting.requestTimeoutSecs.settle (w .requestTimeoutSecs)
  let backend ← Setting.backend.settle (w .backend)
  let url ← Setting.url.settle (w .url)
  let maxConnections ← Setting.maxConnections.settle (w .maxConnections)
  let minConnections ← Setting.minConnections.settle (w .minConnections)
  let runMigrations ← Setting.runMigrations.settle (w .runMigrations)
  let level ← Setting.level.settle (w .level)
  let format ← Setting.format.settle (w .format)
  return ⟨⟨host, port, requestTimeoutSecs⟩,
    ⟨backend, url, maxConnections, minConnections, runMigrations⟩, ⟨level, format⟩⟩

theorem assemble_eq_ok_iff {w : Setting → Option Tree} {c : Settings} :
    assemble w = .ok c ↔ ∀ s : Setting, s.settle (w s) = .ok (s.get c) := by
  constructor
  · intro h
    obtain ⟨host, hhost, h⟩ := bind_eq_ok_iff.mp h
    obtain ⟨port, hport, h⟩ := bind_eq_ok_iff.mp h
    obtain ⟨timeout, htimeout, h⟩ := bind_eq_ok_iff.mp h
    obtain ⟨backend, hbackend, h⟩ := bind_eq_ok_iff.mp h
    obtain ⟨url, hurl, h⟩ := bind_eq_ok_iff.mp h
    obtain ⟨max, hmax, h⟩ := bind_eq_ok_iff.mp h
    obtain ⟨min, hmin, h⟩ := bind_eq_ok_iff.mp h
    obtain ⟨migrate, hmigrate, h⟩ := bind_eq_ok_iff.mp h
    obtain ⟨level, hlevel, h⟩ := bind_eq_ok_iff.mp h
    obtain ⟨format, hformat, h⟩ := bind_eq_ok_iff.mp h
    cases h
    intro s
    cases s <;> assumption
  · intro h
    rw [assemble, h .host, h .port, h .requestTimeoutSecs, h .backend, h .url, h .maxConnections,
      h .minConnections, h .runMigrations, h .level, h .format]
    rfl

theorem exists_settings (v : (s : Setting) → s.Value) : ∃ c : Settings, ∀ s, s.get c = v s := by
  refine ⟨⟨⟨v .host, v .port, v .requestTimeoutSecs⟩, ⟨v .backend, v .url, v .maxConnections,
    v .minConnections, v .runMigrations⟩, ⟨v .level, v .format⟩⟩, fun s => ?_⟩
  cases s <;> rfl

theorem assemble_eq_error_iff {w : Setting → Option Tree} :
    (∃ e, assemble w = .error e) ↔ ∃ (s : Setting) (t : Tree), w s = some t ∧
      ∀ v, s.take t ≠ .ok v := by
  constructor
  · rintro ⟨e, he⟩
    by_contra! hfits
    have hsettled (s : Setting) : ∃ v, s.settle (w s) = .ok v := by
      cases hw : w s with
      | none => exact ⟨_, rfl⟩
      | some t => exact hfits s t hw
    choose v hv using hsettled
    obtain ⟨c, hc⟩ := exists_settings v
    have hok : assemble w = .ok c := assemble_eq_ok_iff.mpr fun s => (hc s).symm ▸ hv s
    rw [hok] at he
    cases he
  · rintro ⟨s, t, hw, hunfit⟩
    cases hc : assemble w with
    | error e => exact ⟨e, rfl⟩
    | ok c =>
      have hs := assemble_eq_ok_iff.mp hc s
      rw [hw] at hs
      exact absurd hs (hunfit _)

end CardDesk.Settings
