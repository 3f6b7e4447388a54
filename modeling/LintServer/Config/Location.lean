import LintServer.Config.Template
import LintServer.Text.Blank

/-!
# Where things are

* `Location.appDir?`: the server's own directory in the home directory;
* **`Location.expandPath`**: a path with references to variables and a leading tilde;
* `Location.configPath?`, `Location.defaultInstallDir`.
-/

namespace LintServer.Location

variable (env : Environment)

/-- The name of the directory that the server keeps below the home directory. -/
def appDirName : String := ".jsonlint-ls"

/-- The server's own directory. -/
def appDir? : Option Path := env.home?.map (·.child appDirName)

/-- A tilde at the start, alone or before a separator, is the home directory. -/
def expandTilde (s : String) : Path :=
  match env.home?, s.toList with
  | some home, ['~'] => home
  | some home, '~' :: '/' :: rest => home.child (String.ofList rest)
  | _, _ => ⟨s⟩

/-- A path with its references and then its tilde put in. -/
def expandPath (s : String) : Path := expandTilde env (Template.expand env s)

/-- The variable that names another config file. -/
def configVariable : String := "JSONLINT_LS_CONFIG"

/-- The config path as the variable gives it, unless it is blank. -/
def chosenConfig? : Option String :=
  (env configVariable).bind fun v => if Text.allBlank v then none else some v

/-- Where the config file is: where the variable says, or in the server's own directory. -/
def configPath? : Option Path :=
  match chosenConfig? env with
  | some v => some (expandPath env v)
  | none => (appDir? env).map (·.child "config.toml")

/-- The names without a value that finding the config file comes across. -/
def configPathUnset : List String :=
  match chosenConfig? env with
  | some v => Template.unset env v
  | none => []

/-- Where the validator is installed when nothing else is said. -/
def defaultInstallDir : Path := ((appDir? env).getD ⟨appDirName⟩).child "validator"

end LintServer.Location
