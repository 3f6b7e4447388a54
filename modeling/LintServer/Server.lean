import LintServer.Connection
import LintServer.Frame
import LintServer.Session

/-!
# The server

A server serves one editor: it reads frames, keeps the session, hands events to the workspace and
writes frames back. Its parts work side by side, so a step belongs to one of them, and steps may
follow each other in any order. `Server.settle` does all that can be done without the outside, in
one fixed order.

* `Server`, `Phase`: a server ends when its session is over and what is left has been written;
* `Server.Step`: what may happen, outside and inside; `Server.Order`: what is to be done outside;
* **`Server.step`**: one step; one that is not possible does nothing;
* `Server.ready?`, **`Server.settle`**: the steps inside, until none is left.
-/

namespace LintServer

/-- How far a server has come. -/
inductive Phase where
  /-- It reads frames. -/
  | reading
  /-- The session is over; events may be left. -/
  | over (r : Except FrameError Unit)
  /-- The writer has been told to stop. -/
  | stopping (r : Except FrameError Unit)
  /-- The server has ended. -/
  | ended (r : Except FrameError Unit)

/-- A server for one editor. -/
structure Server where
  session : Session
  /-- The events that the workspace has not handled, the next first. -/
  events : List EditorEvent
  workspace : Workspace
  connection : Connection
  /-- What the editor's side has answered to the linter, the next first. -/
  answers : List Action
  /-- The bytes that have not been read. -/
  input : List UInt8
  /-- Whether no more bytes will come. -/
  inputEnded : Bool
  phase : Phase

namespace Server

/-- What is to be done outside. -/
inductive Order where
  /-- Write a frame to the editor, and report when that is done. -/
  | write (frame : Json)
  | lookUp (program : String)
  | validate (id : Nat) (command : Command) (text : String)
  | install (s : ValidatorSettings)
  | log (e : Log.Entry)
  deriving Repr

/-- What may happen. -/
inductive Step where
  /-- Bytes arrive from the editor. -/
  | receive (bytes : List UInt8)
  /-- No more bytes will come. -/
  | endInput
  /-- Time passes, in milliseconds. -/
  | elapse (ms : Nat)
  /-- A frame has been written, or could not be. -/
  | written (r : Except Fault Unit)
  | lookedUp (found : Bool)
  | ended (id : Nat) (outcome : Except RunError Run)
  | installed (r : Except InstallError Unit)
  /-- The next frame is read. -/
  | read
  /-- The next event is handled. -/
  | handle
  /-- The linter takes the next answer. -/
  | deliver
  /-- An attempt goes on. -/
  | advance (id : Nat)
  /-- The next timer fires. -/
  | fire
  /-- The writer is told to stop. -/
  | stop
  /-- The writer takes the next frame. -/
  | write
  /-- The server ends. -/
  | finish

/-! ## Parts of a step -/

/-- Does what the linter wants. -/
def perform (s : Server) : Effect → Server × List Order
  | .tell n => ({ s with connection := s.connection.tell n }, [])
  | .notify n =>
    let r := s.connection.notify n
    ({ s with
        connection := r.1
        answers := s.answers ++ (r.2.map fun e => Action.answered (.error e)).toList }, [])
  | .showConfig =>
    let r := s.connection.showConfig
    ({ s with connection := r.1, answers := s.answers ++ [.configShown r.2] }, [])
  | .lookUp program => (s, [.lookUp program])
  | .validate id command text => (s, [.validate id command text])
  | .install v => (s, [.install v])
  | .log e => (s, [.log e])

/-- Does one thing after the other. -/
def inTurn {α : Type} (act : Server → α → Server × List Order) (s : Server) (things : List α) :
    Server × List Order :=
  things.foldl (fun r thing => let q := act r.1 thing; (q.1, r.2 ++ q.2)) (s, [])

/-- Gives the workspace its new state and does what the linter wants. -/
def absorb (s : Server) (r : Workspace × List Effect) : Server × List Order :=
  inTurn perform { s with workspace := r.1 } r.2

/-- One action of the linter. -/
def act (s : Server) (a : Action) : Server × List Order := s.absorb (s.workspace.act a)

/-- Ends the session. -/
def leave (s : Server) (r : Except FrameError Unit) : Server :=
  { s with session := s.session.close, phase := .over r }

/-- Does what has come of a message. -/
def carryOut (s : Server) : Outcome → Server × List Order
  | .reply frame => ({ s with connection := s.connection.send frame }, [])
  | .event e => ({ s with events := s.events ++ [e] }, [])
  | .answer id body =>
    match s.connection.answer? id body with
    | some (c, choice) =>
      ({ s with connection := c, answers := s.answers ++ [.answered choice] }, [])
    | none => (s, [])
  | .log e => (s, [.log e])
  | .exit => (s.leave (.ok ()), [])

/-- Gives the session its new state and does what has come of a message. -/
def follow (s : Server) (r : Session × List Outcome) : Server × List Order :=
  inTurn carryOut { s with session := r.1 } r.2

/-- Reads the next frame. -/
def readFrame (s : Server) : Server × List Order :=
  match Frame.read s.inputEnded s.input with
  | .more => (s, [])
  | .closed => (s.leave (.ok ()), [])
  | .failed e => (s.leave (.error e), [])
  | .body bytes rest =>
    { s with input := rest }.follow <|
      match Json.ofBytes? bytes with
      | some frame => s.session.receive frame
      | none => s.session.malformed

/-- Lets the writer take the next item. -/
def writeNext (s : Server) : Server × List Order :=
  match s.connection.next? with
  | some (c, some frame) => ({ s with connection := c }, [.write frame])
  | some (c, none) => ({ s with connection := c }, [])
  | none => (s, [])

/-- The warning about a frame that could not be written. -/
def writeWarning (f : Fault) : Log.Entry :=
  Log.warning .session s!"Writing to editor: {(FrameError.io f).message}"

/-- Takes the report of a write. -/
def takeWritten (s : Server) (r : Except Fault Unit) : Server × List Order :=
  ({ s with connection := s.connection.written r },
    match s.connection.writer, r with
    | .writing, .error f => [.log (writeWarning f)]
    | _, _ => [])

/-! ## Steps -/

/-- A server whose validator is installed or about to be. -/
def start (settings : Settings) (configPath : Option Path) (installed : Bool) :
    Server × List Order :=
  let r := Linter.start settings.validator installed
  inTurn perform
    { session := .start settings.quiet
      events := []
      workspace := .start r.1
      connection := .start configPath
      answers := []
      input := []
      inputEnded := false
      phase := .reading }
    r.2

/-- One step, and what is to be done outside. -/
def step (s : Server) : Step → Server × List Order
  | .receive bytes => ({ s with input := s.input ++ bytes }, [])
  | .endInput => ({ s with inputEnded := true }, [])
  | .elapse ms => ({ s with session := s.session.elapse ms }, [])
  | .written r => s.takeWritten r
  | .lookedUp found => s.act (.lookedUp found)
  | .ended id outcome => s.act (.ended id outcome)
  | .installed r => s.act (.installed r)
  | .read => match s.phase with
    | .reading => s.readFrame
    | _ => (s, [])
  | .handle => match s.events with
    | e :: rest => { s with events := rest }.absorb (s.workspace.handle e)
    | [] => (s, [])
  | .deliver => match s.answers with
    | a :: rest => { s with answers := rest }.act a
    | [] => (s, [])
  | .advance id => s.act (.advance id)
  | .fire => match s.session.fire? with
    | some (session, e) => ({ s with session, events := s.events ++ [e] }, [])
    | none => (s, [])
  | .stop => match s.phase, s.events with
    | .over r, [] => ({ s with connection := s.connection.put .stop, phase := .stopping r }, [])
    | _, _ => (s, [])
  | .write => s.writeNext
  | .finish => match s.phase with
    | .stopping r => if s.connection.isOpen then (s, []) else ({ s with phase := .ended r }, [])
    | _ => (s, [])

/-! ## Settling -/

/-- Whether reading gets anywhere. -/
def canRead (s : Server) : Bool :=
  match s.phase with
  | .reading => match Frame.read s.inputEnded s.input with
    | .more => false
    | _ => true
  | _ => false

/-- Whether the writer can be told to stop. -/
def canStop (s : Server) : Bool :=
  match s.phase with
  | .over _ => s.events.isEmpty
  | _ => false

/-- Whether the server can end. -/
def canFinish (s : Server) : Bool :=
  match s.phase with
  | .stopping _ => !s.connection.isOpen
  | _ => false

/-- The step inside that comes next: frames are read before events are handled, those before answers
and attempts, and the writer comes last. -/
def ready? (s : Server) : Option Step :=
  if s.canRead then some .read
  else if !s.events.isEmpty then some .handle
  else if !s.answers.isEmpty then some .deliver
  else
    match s.workspace.linter.oldest? with
    | some id => some (.advance id)
    | none =>
      if s.session.due?.isSome then some .fire
      else if s.canStop then some .stop
      else if s.connection.next?.isSome then some .write
      else if s.canFinish then some .finish
      else none

/-- At least as many as the steps that a server can make without the outside: a frame is never
empty, and each thing that a step leaves behind counts less than what it takes away. -/
def budget (s : Server) : Nat :=
  16 * (s.input.length + s.session.timers.length + s.events.length + s.answers.length +
    s.workspace.linter.attempts.entries.length + s.connection.line.length + 1)

/-- Makes so many steps inside at most, and collects the orders behind earlier ones. -/
def settleIn : Nat → Server → List Order → Server × List Order
  | 0, s, orders => (s, orders)
  | fuel + 1, s, orders =>
    match s.ready? with
    | none => (s, orders)
    | some step => let r := s.step step; settleIn fuel r.1 (orders ++ r.2)

/-- Makes all steps that are possible without the outside. -/
def settle (s : Server) : Server × List Order := settleIn s.budget s []

/-- One step, and then all that are possible without the outside. -/
def run (s : Server) (step : Step) : Server × List Order :=
  let r := s.step step
  let q := r.1.settle
  (q.1, r.2 ++ q.2)

end Server

end LintServer
