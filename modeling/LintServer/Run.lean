import LintServer.Capture
import LintServer.Fault
import LintServer.Path
import LintServer.Report

/-!
# Running programs

* `Command`: what is run, and where;
* `Run`: a validator run that came to its end; `Run.findings`;
* `RunError`: why one came to nothing;
* `ExitStatus`: how a process ended; `Run.ofExit`: the run of a process that ended.
-/

namespace LintServer

/-- A program with its arguments, and the directory to run it in if that exists. -/
structure Command where
  program : String
  args : List String
  dir : Option Path
  deriving DecidableEq, Repr

/-- A validator run that came to its end. -/
structure Run where
  success : Bool
  output : String
  deriving DecidableEq, Repr

/-- What a run reports. -/
def Run.findings (r : Run) : List Finding := Report.findingsOf r.success r.output

/-- Why a validator run came to nothing. -/
inductive RunError where
  | notStarted (program : String) (fault : Fault)
  | interrupted (program : String) (fault : Fault)
  deriving DecidableEq, Repr

/-- Why a run came to nothing, in words. -/
def RunError.message : RunError → String
  | notStarted p f => s!"spawning {p}: {f.message}"
  | interrupted p f => s!"I/O with {p}: {f.message}"

/-! ## Ends of processes -/

/-- How a process ended. -/
inductive ExitStatus where
  | code (n : Nat)
  /-- By a signal, and perhaps the system kept an image of the process. -/
  | signal (n : Nat) (coreDumped : Bool := false)
  deriving DecidableEq, Repr

/-- The names of the signals, from the first one on. -/
def signalNames : List String :=
  ["SIGHUP", "SIGINT", "SIGQUIT", "SIGILL", "SIGTRAP", "SIGABRT", "SIGBUS", "SIGFPE", "SIGKILL",
    "SIGUSR1", "SIGSEGV", "SIGUSR2", "SIGPIPE", "SIGALRM", "SIGTERM", "SIGSTKFLT", "SIGCHLD",
    "SIGCONT", "SIGSTOP", "SIGTSTP", "SIGTTIN", "SIGTTOU", "SIGURG", "SIGXCPU", "SIGXFSZ",
    "SIGVTALRM", "SIGPROF", "SIGWINCH", "SIGIO", "SIGPWR", "SIGSYS"]

namespace ExitStatus

/-- Whether a process ended well. -/
def success : ExitStatus → Bool
  | code n => n = 0
  | signal .. => false

/-- The name of a signal, if it has one. -/
def signalName? : Nat → Option String
  | 0 => none
  | n + 1 => signalNames[n]?

/-- How a process ended, in words. -/
def message : ExitStatus → String
  | code n => s!"exit status: {n}"
  | signal n coreDumped =>
    s!"signal: {n}" ++ ((signalName? n).map fun name => s!" ({name})").getD "" ++
      if coreDumped then " (core dumped)" else ""

end ExitStatus

/-- The run of a process that ended, with what has been kept of its output. -/
def Run.ofExit (status : ExitStatus) (c : Capture) : Run := ⟨status.success, c.output⟩

end LintServer
