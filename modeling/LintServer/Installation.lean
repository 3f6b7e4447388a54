import LintServer.Run
import LintServer.Settings

/-!
# Installations

The validator is installed into a directory of its own. The installer is looked up, the directory is
made and the installer runs; each step is taken only if the one before it went well.

* `InstallState`: where the installation stands;
* `InstallError`: how it may fail;
* `InstallError.detailOf`: what is told of an installer's failure is its last line, or how it ended
  if it said nothing;
* **`ValidatorSettings.install`**: the steps, in any monad that can take them.
-/

namespace LintServer

/-- Where the installation stands. -/
inductive InstallState where
  | installing
  | ready
  | failed
  deriving DecidableEq, Repr

/-- Why an installation failed. -/
inductive InstallError where
  | installerMissing (program : String)
  | noDirectory (program : String) (fault : Fault)
  | notStarted (program : String) (fault : Fault)
  | failed (package : String) (detail : String)
  deriving DecidableEq, Repr

namespace InstallError

/-- Why an installation failed, in words. -/
def message : InstallError → String
  | installerMissing p => s!"{p} not found in PATH"
  | noDirectory p f => s!"I/O with {p}: {f.message}"
  | notStarted p f => s!"spawning {p}: {f.message}"
  | failed package detail => s!"installing {package} failed: {detail}"

/-- The last line of a text. -/
def lastLine (s : List Char) : List Char := (s.reverse.takeWhile (· ≠ '\n')).reverse

/-- What is told of an installer that failed: the last line that it printed on its error stream, or
how it ended if it printed nothing. -/
def detailOf (installer : String) (status : ExitStatus) (stderr : List UInt8) : String :=
  let said := Text.trim (Text.Utf8.decodeLossy stderr)
  if said.isEmpty then s!"{installer} exited with {status.message}"
  else String.ofList (lastLine said)

end InstallError

variable {m : Type → Type} [Monad m]

/-- Installs the validator: `find` looks a program up, `makeDirectory` makes a directory, and
`launch` runs a program to its end and gives its error stream. -/
def ValidatorSettings.install (s : ValidatorSettings) (find : String → m Bool)
    (makeDirectory : Path → m (Except Fault Unit))
    (launch : String → List String → m (Except Fault (ExitStatus × List UInt8))) :
    m (Except InstallError Unit) := do
  if !(← find s.installer) then return .error (.installerMissing s.installer)
  match ← makeDirectory s.installDir with
  | .error f => return .error (.noDirectory s.installer f)
  | .ok () =>
    match ← launch s.installer s.installArgs with
    | .error f => return .error (.notStarted s.installer f)
    | .ok (status, stderr) =>
      if status.success then return .ok ()
      else return .error (.failed s.package (InstallError.detailOf s.installer status stderr))

end LintServer
