import LintServer.Host
import LintServer.Installation
import LintServer.Log
import LintServer.Publisher

/-!
# Linting

Every request to check a document becomes an attempt of its own. Attempts go on one step at a time
and in any order: a document of another syntax is passed over, the runner is looked up once, a
ticket is taken, the validator runs, and the ticket comes back. An installation of the validator may
be under way at the same time; no attempt waits for it.

* `Attempt`, `Stage`, `Linter`: the attempts under way and all that they share;
* `Action`: what may happen; `Effect`: what is to be done about it outside;
* `Linter.start`: the linter, and the installation if there is need of one;
* **`Linter.step`**: one action;
* `Linter.canAdvance`: whether an attempt can go on by itself.
-/

namespace LintServer

/-- How far an attempt has come. -/
inductive Stage where
  /-- Its document's syntax tag has not been looked at. -/
  | fresh (tag : String)
  /-- It waits to learn whether the runner can be found. -/
  | waiting
  /-- It is about to take its ticket. -/
  | cleared
  /-- The validator runs for its ticket. -/
  | running (t : Ticket)
  deriving DecidableEq, Repr

/-- One check of a text. -/
structure Attempt where
  uri : Uri
  text : String
  stage : Stage
  deriving DecidableEq, Repr

/-- What is known about the runner. -/
inductive Lookup where
  | unasked
  | asked
  | answered (found : Bool)
  deriving DecidableEq, Repr

/-- Where the notification about a missing runner stands. -/
inductive Warning where
  | unsent
  | shown
  | answered
  deriving DecidableEq, Repr

/-- The attempts under way and all that they share. -/
structure Linter where
  settings : ValidatorSettings
  publisher : Publisher
  attempts : Table Nat Attempt
  /-- The number of the next attempt. -/
  next : Nat
  lookup : Lookup
  warning : Warning
  installation : InstallState
  deriving DecidableEq

/-- What may happen. -/
inductive Action where
  /-- A document is to be checked if its syntax is the right one. -/
  | check (d : Document)
  /-- A text is to be checked, whatever its syntax. -/
  | checkText (u : Uri) (text : String)
  /-- An attempt goes on. -/
  | advance (id : Nat)
  /-- The runner has been looked up. -/
  | lookedUp (found : Bool)
  /-- The validator run of an attempt has ended. -/
  | ended (id : Nat) (outcome : Except RunError Run)
  /-- The notification has been answered with the index of an action, or without choosing one. -/
  | answered (choice : Except HostError (Option Nat))
  /-- The configuration has been shown, or not. -/
  | configShown (r : Except HostError Unit)
  /-- The installation has ended. -/
  | installed (r : Except InstallError Unit)
  | publish (u : Uri) (findings : List Finding)
  | retract (u : Uri)

/-- What is to be done outside. -/
inductive Effect where
  /-- Tell the editor about a document. -/
  | tell (n : Notice)
  /-- Show a notification and bring back the answer. -/
  | notify (n : Notification)
  /-- Show the configuration. -/
  | showConfig
  /-- Look a program up on the search path. -/
  | lookUp (program : String)
  /-- Run the validator for an attempt, over a text. -/
  | validate (id : Nat) (command : Command) (text : String)
  /-- Install the validator. -/
  | install (s : ValidatorSettings)
  /-- Write a log entry. -/
  | log (e : Log.Entry)
  deriving DecidableEq, Repr

namespace ValidatorSettings

/-- The command that checks a text on its standard input. -/
def command (s : ValidatorSettings) : Command := ⟨s.runner, s.runnerArgs, some s.installDir⟩

/-- The notification about a runner that cannot be found. -/
def missingRunner (s : ValidatorSettings) : Notification where
  id := "jsonlint.runnerNotFound"
  title := "NPM Not Found"
  body := "JSONLint requires NPM and Node.js. Please download and install the latest version of " ++
    s!"Node.js, or verify that {s.runner} can be found on $PATH."
  actions := ["OK", "Help"]

end ValidatorSettings

namespace Linter

/-- The index of the action that shows the configuration. -/
def helpAction : Nat := 1

/-- A linter without attempts, whose validator is installed or about to be. -/
def start (s : ValidatorSettings) (installed : Bool) : Linter × List Effect :=
  ({ settings := s
     publisher := .empty
     attempts := .empty
     next := 0
     lookup := .unasked
     warning := .unsent
     installation := if installed then .ready else .installing },
    if installed then [] else [.install s])

/-- Adds an attempt. -/
def addAttempt (l : Linter) (u : Uri) (text : String) (stage : Stage) : Linter :=
  { l with attempts := l.attempts.insert l.next ⟨u, text, stage⟩, next := l.next + 1 }

/-- Sets the stage of an attempt. -/
def setStage (l : Linter) (id : Nat) (a : Attempt) (stage : Stage) : Linter :=
  { l with attempts := l.attempts.insert id { a with stage } }

/-- Ends an attempt. -/
def dropAttempt (l : Linter) (id : Nat) : Linter := { l with attempts := l.attempts.erase id }

/-- Asks for the runner unless that has been done before. -/
def askOnce (l : Linter) : Linter × List Effect :=
  match l.lookup with
  | .unasked => ({ l with lookup := .asked }, [.lookUp l.settings.runner])
  | _ => (l, [])

/-- Tells the user once that the runner cannot be found. -/
def warnOnce (l : Linter) (found : Bool) : Linter × List Effect :=
  if !found && l.warning = .unsent then
    ({ l with warning := .shown },
      [.log (Log.warning .linter s!"{l.settings.runner} not found in PATH"),
        .notify l.settings.missingRunner])
  else (l, [])

/-- Takes a ticket for an attempt and runs the validator. -/
def launch (l : Linter) (id : Nat) (a : Attempt) : Linter × List Effect :=
  let r := l.publisher.begin a.uri
  ({ l with publisher := r.1 }.setStage id a (.running r.2),
    [.validate id l.settings.command a.text])

/-- One step of an attempt. -/
def advance (l : Linter) (id : Nat) : Linter × List Effect :=
  match l.attempts.get? id with
  | none => (l, [])
  | some a =>
    match a.stage with
    | .fresh tag =>
      if tag = l.settings.tag then
        let r := l.askOnce
        (r.1.setStage id a .waiting, r.2)
      else (l.dropAttempt id, [])
    | .waiting =>
      match l.lookup with
      | .answered found =>
        let r := l.warnOnce found
        (r.1.setStage id a .cleared, r.2)
      | _ => (l, [])
    | .cleared => l.launch id a
    | .running _ => (l, [])

/-- The warning about a run that came to nothing. -/
def runWarning (u : Uri) (e : RunError) : Log.Entry :=
  ⟨.linter, .warn, s!"Lint run failed: {e.message}", [("uri", .plain u.text)]⟩

/-- Brings the ticket of an attempt back with the outcome of its run. -/
def settle (l : Linter) (id : Nat) (outcome : Except RunError Run) : Linter × List Effect :=
  match l.attempts.get? id with
  | some ⟨u, _, .running t⟩ =>
    match outcome with
    | .ok run =>
      let r := l.publisher.complete t run.findings
      ({ l with publisher := r.1 }.dropAttempt id, r.2.2.map .tell)
    | .error e =>
      ({ l with publisher := l.publisher.abandon t }.dropAttempt id, [.log (runWarning u e)])
  | _ => (l, [])

/-- Takes the answer to the notification. -/
def takeAnswer (l : Linter) (choice : Except HostError (Option Nat)) : Linter × List Effect :=
  if l.warning = .shown then
    ({ l with warning := .answered },
      match choice with
      | .ok (some i) => if i = helpAction then [.showConfig] else []
      | .ok none => []
      | .error e =>
        [.log (Log.warning .linter s!"Failed to show runner notification: {e.message}")])
  else (l, [])

/-- Ends the installation. -/
def endInstall (l : Linter) (r : Except InstallError Unit) : Linter × List Effect :=
  if l.installation = .installing then
    match r with
    | .ok () => ({ l with installation := .ready }, [])
    | .error e =>
      ({ l with installation := .failed },
        [.log ⟨.linter, .error, s!"Failed to install {l.settings.package}: {e.message}", []⟩])
  else (l, [])

/-- One action, and what is to be done about it. -/
def step (l : Linter) : Action → Linter × List Effect
  | .check d => (l.addAttempt d.uri d.text (.fresh d.tag), [])
  | .checkText u text => (l.addAttempt u text .cleared, [])
  | .advance id => l.advance id
  | .lookedUp found => (if l.lookup = .asked then { l with lookup := .answered found } else l, [])
  | .ended id outcome => l.settle id outcome
  | .answered choice => l.takeAnswer choice
  | .configShown (.ok ()) => (l, [])
  | .configShown (.error e) =>
    (l, [.log (Log.warning .linter s!"Failed to open configuration: {e.message}")])
  | .installed r => l.endInstall r
  | .publish u findings =>
    let r := l.publisher.publish u findings
    ({ l with publisher := r.1 }, r.2.map .tell)
  | .retract u =>
    let r := l.publisher.retract u
    ({ l with publisher := r.1 }, r.2.2.map .tell)

/-! ## Attempts that can go on -/

/-- Whether an attempt at a stage can go on by itself. -/
def canLeave (l : Linter) : Stage → Bool
  | .fresh _ => true
  | .waiting => match l.lookup with
    | .answered _ => true
    | _ => false
  | .cleared => true
  | .running _ => false

/-- The attempts that can go on by themselves. -/
def canAdvance (l : Linter) : List Nat :=
  (l.attempts.entries.filter fun e => l.canLeave e.2.stage).map Prod.fst

/-- The oldest attempt that can go on by itself. -/
def oldest? (l : Linter) : Option Nat := l.canAdvance.min?

end Linter

end LintServer
