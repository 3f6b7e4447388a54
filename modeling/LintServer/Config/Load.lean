import LintServer.Config.Reader
import LintServer.Fault

/-!
# Loading the settings

The settings come from the config file if there is one. A file that cannot be used is refused as a
whole: none of its values counts.

* `FileState`: what is found at the place of the config file;
* **`Config.load`**: the settings, or why the file is refused;
* `Config.loadOrDefault`: the settings that the server goes on with.
-/

namespace LintServer

/-- What is found at a path. -/
inductive FileState where
  | absent
  | unreadable (fault : Fault)
  | content (bytes : List UInt8)
  deriving DecidableEq, Repr

/-- Why a config file is refused. -/
inductive ConfigError where
  | unread (path : Path) (fault : Fault)
  | unparsed (path : Path)
  | invalid (path : Path) (cause : SettingsError)
  deriving DecidableEq, Repr

namespace ConfigError

/-- The file that is refused. -/
def path : ConfigError → Path
  | unread p _ => p
  | unparsed p => p
  | invalid p _ => p

/-- Why it is refused, in words. -/
def message : ConfigError → String
  | unread p f => s!"failed to read config at {p}: {f.message}"
  | unparsed p => s!"failed to parse config at {p}: not a configuration in TOML"
  | invalid p e => s!"invalid settings in {p}: {e.message}"

end ConfigError

namespace Config

/-- The configuration that a file gives; an absent file says nothing. -/
def ofFile (path : Path) : FileState → Except ConfigError Config
  | .absent => .ok empty
  | .unreadable f => .error (.unread path f)
  | .content bytes =>
    match Text.Utf8.decode? bytes with
    | none => .error (.unread path .notText)
    | some cs =>
      match parse? (String.ofList cs) with
      | none => .error (.unparsed path)
      | some c => .ok c

variable (env : Environment) (file : Path → FileState)

/-- The configuration that holds. -/
def found : Except ConfigError Config :=
  match Location.configPath? env with
  | none => .ok empty
  | some path => ofFile path (file path)

/-- The settings, or why the config file is refused. -/
def load : Except ConfigError Settings := do
  let c ← found env file
  (c.resolve env).mapError fun e => .invalid ((Location.configPath? env).getD ⟨""⟩) e

/-- The settings that the server goes on with: the defaults if the file is refused. -/
def loadOrDefault : Settings :=
  match load env file with
  | .ok s => s
  | .error _ => Settings.default env

/-- The names without a value that loading comes across, in order. -/
def loadUnset : List String :=
  Location.configPathUnset env ++
    match found env file with
    | .ok c => c.unset env
    | .error _ => []

end Config

end LintServer
