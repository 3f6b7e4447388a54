import LintServer.Path

/-!
# Environments

What is given from outside: the variables that are set, such as `NAME=value`, and the home
directory.

* **`Environment`**: the values of the variables, and the home directory that goes with them;
* `Environment.ofVariables`: the environment of some variables and of an account;
* `Environment.valueIn?`, `Environment.ofSettings`: the variables that settings make, one behind the
  other.
-/

namespace LintServer

/-- The values of the variables that are set, and the home directory. Only the variable `HOME` says
for sure where that is; when it is missing or empty, the system may know another one or none. -/
structure Environment where
  value? : String → Option String
  home? : Option Path
  home_of_variable : ∀ h, value? "HOME" = some h → h.isEmpty = false → home? = some ⟨h⟩

namespace Environment

instance : CoeFun Environment fun _ => String → Option String := ⟨value?⟩

/-- The environment of some variables, when the system has a home directory for the account. -/
def ofVariables (value? : String → Option String) (account : Option Path) : Environment where
  value? := value?
  home? :=
    match value? "HOME" with
    | some h => if h.isEmpty then account else some ⟨h⟩
    | none => account
  home_of_variable h hvalue hne := by simp [hvalue, hne]

/-- What follows a name and an equals sign in a setting. The name may hold equals signs itself. -/
def valueIn? (name setting : List Char) : Option (List Char) :=
  if (name ++ ['=']).isPrefixOf setting then some (setting.drop (name.length + 1)) else none

/-- The environment that settings make: of two settings that fit a name the first one counts. -/
def ofSettings (settings : List String) (account : Option Path := none) : Environment :=
  ofVariables (fun name =>
    settings.findSome? fun s => (valueIn? name.toList s.toList).map String.ofList) account

end Environment

end LintServer
