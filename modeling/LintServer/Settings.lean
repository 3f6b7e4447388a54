import LintServer.Path
import LintServer.Text.Blank

/-!
# Settings

What the server has to know: how the validator is installed and run, which documents it is for, and
how long an edited document has to rest before it is checked again.

* `ValidatorSettings`: its names and its tag are never blank;
* `ValidatorSettings.make`: checks them, in the order package, runner, installer, tag;
* `ValidatorSettings.installedBin`, `runnerArgs`, `installArgs`: what follows from the settings;
* `Settings`: the validator's settings and the quiet period.
-/

namespace LintServer

/-- Which setting is blank. -/
inductive SettingsError where
  | blankPackage
  | blankRunner
  | blankInstaller
  | blankTag
  deriving DecidableEq, Repr

/-- What is said of a blank setting. -/
def SettingsError.message : SettingsError → String
  | blankPackage => "validator package must not be empty"
  | blankRunner => "runner command must not be empty"
  | blankInstaller => "installer command must not be empty"
  | blankTag => "syntax tag must not be empty"

/-- How the validator is installed and run. -/
structure ValidatorSettings where
  /-- The package that provides the validator. -/
  package : String
  /-- The program that runs a package. -/
  runner : String
  /-- The program that installs a package. -/
  installer : String
  /-- What the validator is given behind its name. -/
  args : List String
  /-- Where the package is installed. -/
  installDir : Path
  /-- The syntax tag of the documents that are checked. -/
  tag : String
  package_named : Text.allBlank package = false
  runner_named : Text.allBlank runner = false
  installer_named : Text.allBlank installer = false
  tag_named : Text.allBlank tag = false
  deriving DecidableEq, Repr

namespace ValidatorSettings

/-- Settings without a blank name, or the first one that is blank. -/
def make (package runner installer : String) (args : List String) (installDir : Path)
    (tag : String) : Except SettingsError ValidatorSettings :=
  if hp : Text.allBlank package then .error .blankPackage
  else if hr : Text.allBlank runner then .error .blankRunner
  else if hi : Text.allBlank installer then .error .blankInstaller
  else if ht : Text.allBlank tag then .error .blankTag
  else .ok
    { package, runner, installer, args, installDir, tag
      package_named := by simpa using hp
      runner_named := by simpa using hr
      installer_named := by simpa using hi
      tag_named := by simpa using ht }

/-- Where the installer puts the package's program. -/
def installedBin (s : ValidatorSettings) : Path :=
  ((s.installDir.child "node_modules").child ".bin").child s.package

/-- The arguments of the runner. -/
def runnerArgs (s : ValidatorSettings) : List String := s.package :: s.args

/-- The arguments of the installer. -/
def installArgs (s : ValidatorSettings) : List String :=
  ["install", "--no-save", "--prefix", s.installDir.text, s.package]

end ValidatorSettings

/-- The settings of the server. -/
structure Settings where
  validator : ValidatorSettings
  /-- How many milliseconds an edited document has to rest. -/
  quiet : Nat
  deriving DecidableEq

/-- The quiet period of a server that is not told otherwise. -/
def Settings.defaultQuiet : Nat := 300

end LintServer
