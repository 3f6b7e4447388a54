import LintServer.Config.Load
import LintServer.Frame
import LintServer.Log

/-!
# Starting and ending

* `Startup.logPaths`, `Startup.openLog`: where the log is written, and what is said of places where
  it cannot be;
* **`Startup.entries`**: what is logged before the session begins;
* `Startup.failureText`: what is printed when reading from the editor failed.
-/

namespace LintServer.Startup

/-! ## The log file -/

/-- The name of the log file below a server's own directory. -/
def logBelow (appDir : Path) : Path := (appDir.child "logs").child "jsonlint-ls.log"

/-- Where the log file may be, the first choice first. -/
def logPaths (env : Environment) : List Path :=
  (Location.appDir? env).toList.map logBelow ++ [logBelow ⟨Location.appDirName⟩]

/-- The directory of a path. -/
def parent (p : Path) : Path :=
  ⟨String.ofList ((p.text.toList.reverse.dropWhile (· ≠ '/')).drop 1).reverse⟩

/-- Why a log file cannot be used. -/
inductive LogTrouble where
  | noDirectory (f : Fault)
  | noFile (f : Fault)
  deriving DecidableEq, Repr

/-- What is said of a log file that cannot be used. -/
def LogTrouble.message (p : Path) : LogTrouble → String
  | noDirectory f => s!"Failed to create log dir {parent p}: {f.message}"
  | noFile f => s!"Failed to open log file {p}: {f.message}"

/-- Tries one place after the other: the one that can be used, if any, and a warning for each one
before it. -/
def openLog {m : Type → Type} [Monad m] (attempt : Path → m (Except LogTrouble Unit)) :
    List Path → m (Option Path × List Log.Entry)
  | [] => pure (none, [])
  | p :: rest => do
    match ← attempt p with
    | .ok () => pure (some p, [])
    | .error t =>
      let r ← openLog attempt rest
      pure (r.1, Log.warning .startup (t.message p) :: r.2)

/-! ## The settings -/

variable (env : Environment) (file : Path → FileState)

/-- The warnings about references to variables without a value. -/
def unsetWarnings (names : List String) : List Log.Entry :=
  names.map fun name => Log.warning .config (Template.unsetMessage name)

/-- The warning about a config file that is refused. -/
def refusal : List Log.Entry :=
  match Config.load env file with
  | .ok _ => []
  | .error e => [Log.warning .startup s!"{e.message}; continuing with defaults"]

/-- The entry that says with what settings the server starts. -/
def starting (v : ValidatorSettings) : Log.Entry :=
  ⟨.startup, .info, "Starting jsonlint-ls",
    [("runner", .quoted v.runner), ("package", .quoted v.package),
      ("install_dir", .plain v.installDir.text)]⟩

/-- What is logged before the session begins. The place of the config file is looked for twice: to
load it, and to be able to show it. -/
def entries : List Log.Entry :=
  unsetWarnings (Config.loadUnset env file) ++ refusal env file ++
    [starting (Config.loadOrDefault env file).validator] ++
    unsetWarnings (Location.configPathUnset env)

/-! ## The end -/

/-- The causes of a failed session, the outermost first. -/
def causes (e : FrameError) : List String :=
  ["reading from editor", e.message] ++
    match e with
    | .io f => [f.message]
    | _ => []

/-- What is printed when a session failed. -/
def failureText (e : FrameError) : String :=
  (causes e).zipIdx.foldl (fun out c => out ++ s!"    {c.2}: {c.1}\n")
    "Error: LSP session failed\n\nCaused by:\n"

end LintServer.Startup
