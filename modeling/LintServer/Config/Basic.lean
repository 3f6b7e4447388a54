import LintServer.Config.Location
import LintServer.Settings

/-!
# Configurations

What a config file may say. Each value can be left out, and then has a default.

* `Config`, `ValidatorConfig`, `EditorConfig`;
* **`Config.resolve`**: the settings, or the first blank name;
* `Settings.default`, `Config.resolve_empty`: what holds when nothing is said.
-/

namespace LintServer

/-- What is said about the validator. -/
structure ValidatorConfig where
  package : Option String
  runner : Option String
  installer : Option String
  args : Option (List String)
  installDir : Option String
  tag : Option String
  deriving DecidableEq, Repr

/-- What is said about the editor. -/
structure EditorConfig where
  /-- The quiet period in milliseconds. -/
  quiet : Option Nat
  deriving DecidableEq, Repr

/-- What a config file says. -/
structure Config where
  validator : Option ValidatorConfig
  editor : Option EditorConfig
  deriving DecidableEq, Repr

namespace Config

/-- The configuration that says nothing. -/
def empty : Config := ⟨none, none⟩

variable (env : Environment) (c : Config)

/-- The install directory as it is written. -/
def installDir? : Option String := c.validator.bind (·.installDir)

/-- The settings: what is said, and the defaults for the rest. -/
def resolve : Except SettingsError Settings := do
  let v := c.validator
  let validator ← ValidatorSettings.make
    ((v.bind (·.package)).getD "jsonlint")
    ((v.bind (·.runner)).getD "npx")
    ((v.bind (·.installer)).getD "npm")
    ((v.bind (·.args)).getD ["-c"])
    (match c.installDir? with
      | some dir => Location.expandPath env dir
      | none => Location.defaultInstallDir env)
    ((v.bind (·.tag)).getD "json")
  return ⟨validator, (c.editor.bind (·.quiet)).getD Settings.defaultQuiet⟩

/-- The names without a value that resolving comes across. -/
def unset : List String :=
  match c.installDir? with
  | some dir => Template.unset env dir
  | none => []

end Config

/-- The validator's settings when nothing is said. -/
def ValidatorSettings.default (env : Environment) : ValidatorSettings where
  package := "jsonlint"
  runner := "npx"
  installer := "npm"
  args := ["-c"]
  installDir := Location.defaultInstallDir env
  tag := "json"
  package_named := by decide
  runner_named := by decide
  installer_named := by decide
  tag_named := by decide

/-- The settings when nothing is said. -/
def Settings.default (env : Environment) : Settings :=
  ⟨ValidatorSettings.default env, Settings.defaultQuiet⟩

/-- A configuration that says nothing resolves to the defaults. -/
theorem Config.resolve_empty (env : Environment) :
    Config.empty.resolve env = .ok (Settings.default env) := by
  rfl

end LintServer
