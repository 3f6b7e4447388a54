import LintServer.Log
import LintServer.Protocol.Incoming
import LintServer.Protocol.Outgoing
import LintServer.Workspace

/-!
# Sessions

A session keeps the open documents of one editor and turns its messages into events. Every open
document counts as one editor. A document that is edited settles when no further edit has come for
the quiet period; opening it again settles it at once.

* `OpenDocument`, `Timer`, `Session`;
* `Outcome`: what comes of a message;
* **`Session.receive`**: one frame; `Session.elapse`, `Session.fire?`: the passing of time;
* `Session.close`: no timer outlives the session.
-/

namespace LintServer

/-- A document that the editor has opened. -/
structure OpenDocument where
  editor : EditorId
  tag : String
  text : String
  /-- The timer under way for its last edit. -/
  timer : Option Nat
  deriving DecidableEq, Repr

/-- An event that becomes due. -/
structure Timer where
  id : Nat
  due : Nat
  event : EditorEvent
  deriving DecidableEq, Repr

/-- The documents of one editor. -/
structure Session where
  documents : Table Uri OpenDocument
  /-- The timers under way, in the order in which they were set. -/
  timers : List Timer
  /-- The milliseconds that have passed. -/
  clock : Nat
  /-- How many editors there have been. -/
  editors : Nat
  /-- The number of the next timer. -/
  nextTimer : Nat
  /-- How many milliseconds an edited document has to rest. -/
  quiet : Nat
  /-- Whether the editor has asked for the shutdown. -/
  shuttingDown : Bool
  deriving DecidableEq

/-- What comes of a message. -/
inductive Outcome where
  /-- A frame for the editor. -/
  | reply (frame : Json)
  | event (e : EditorEvent)
  /-- The answer to a request of the server. -/
  | answer (id : Nat) (body : Json)
  | log (e : Log.Entry)
  /-- The session is over. -/
  | exit
  deriving Repr

namespace OpenDocument

/-- A document as it is now. -/
def snapshot (d : OpenDocument) (u : Uri) : Document := ⟨u, d.tag, d.text⟩

end OpenDocument

namespace Session

/-- A session without documents. -/
def start (quiet : Nat) : Session := ⟨.empty, [], 0, 0, 0, quiet, false⟩

/-! ## Timers -/

/-- Stops a timer. -/
def stopTimer (s : Session) : Option Nat → Session
  | none => s
  | some id => { s with timers := s.timers.filter fun t => t.id ≠ id }

/-- Sets a timer for an event. -/
def setTimer (s : Session) (e : EditorEvent) : Session :=
  { s with timers := s.timers ++ [⟨s.nextTimer, s.clock + s.quiet, e⟩]
           nextTimer := s.nextTimer + 1 }

/-- Lets time pass. -/
def elapse (s : Session) (ms : Nat) : Session := { s with clock := s.clock + ms }

/-- The first of two timers: the one due earlier, or set earlier. -/
def sooner (t : Timer) : Option Timer → Option Timer
  | none => some t
  | some u => if u.due < t.due then some u else some t

/-- The next timer. -/
def nextTimer? (s : Session) : Option Timer := s.timers.foldr sooner none

/-- The next timer that is due. -/
def due? (s : Session) : Option Timer := s.nextTimer?.filter fun t => t.due ≤ s.clock

/-- Fires a timer: its event comes about. -/
def fire? (s : Session) : Option (Session × EditorEvent) :=
  s.due?.map fun t => (s.stopTimer (some t.id), t.event)

/-! ## Documents -/

/-- A document is opened. One that is open already settles at once or changes its syntax. -/
def openDocument (s : Session) (d : Document) : Session × List Outcome :=
  match s.documents.get? d.uri with
  | some old =>
    let s := s.stopTimer old.timer
    let new : OpenDocument := ⟨old.editor, d.tag, d.text, none⟩
    ({ s with documents := s.documents.insert d.uri new },
      [.event (if old.tag = d.tag then .settled old.editor d else .retagged old.editor d)])
  | none =>
    let editor : EditorId := ⟨s.editors + 1⟩
    ({ s with documents := s.documents.insert d.uri ⟨editor, d.tag, d.text, none⟩
              editors := s.editors + 1 },
      [.event (.added editor d)])

/-- An open document is edited; the last text counts. It settles when its timer fires. -/
def changeDocument (s : Session) (u : Uri) (texts : List String) : Session × List Outcome :=
  match s.documents.get? u, texts.getLast? with
  | some old, some text =>
    let s := s.stopTimer old.timer
    let new : OpenDocument := ⟨old.editor, old.tag, text, some s.nextTimer⟩
    let s := s.setTimer (.settled old.editor (new.snapshot u))
    ({ s with documents := s.documents.insert u new }, [])
  | _, _ => (s, [])

/-- An open document is closed. -/
def closeDocument (s : Session) (u : Uri) : Session × List Outcome :=
  match s.documents.get? u with
  | some old =>
    let s := s.stopTimer old.timer
    ({ s with documents := s.documents.erase u }, [.event (.destroyed old.editor)])
  | none => (s, [])

/-! ## Messages -/

/-- The reply to a request. -/
def replyTo (s : Session) (id : Json) (method : String) : Session × List Outcome :=
  if s.shuttingDown then
    (s, [.reply (Outgoing.errorResponse id Outgoing.invalidRequest "server is shutting down")])
  else if method = "initialize" then
    (s, [.reply (Outgoing.response id Outgoing.initializeResult)])
  else if method = "shutdown" then
    ({ s with shuttingDown := true }, [.reply (Outgoing.response id .null)])
  else
    (s, [.reply
      (Outgoing.errorResponse id Outgoing.methodNotFound s!"Method not found: {method}")])

/-- Acts on parameters that decode, and warns of those that do not. -/
def withParams {α : Type} (s : Session) (method : String) (params : Option α)
    (act : α → Session × List Outcome) : Session × List Outcome :=
  match params with
  | some p => act p
  | none => (s, [.log (Log.warning .session s!"Invalid {method} params")])

/-- What comes of a notification. -/
def note (s : Session) (method : String) (params : Json) : Session × List Outcome :=
  if method = "exit" then
    (s, if s.shuttingDown then [.exit]
      else [.log (Log.warning .session "Exit without shutdown"), .exit])
  else if method = "textDocument/didOpen" then
    s.withParams method (Incoming.openParams? params) s.openDocument
  else if method = "textDocument/didChange" then
    s.withParams method (Incoming.changeParams? params) fun p => s.changeDocument p.1 p.2
  else if method = "textDocument/didClose" then
    s.withParams method (Incoming.closeParams? params) s.closeDocument
  else (s, [])

/-- What comes of a frame. -/
def receive (s : Session) (frame : Json) : Session × List Outcome :=
  match Incoming.ofFrame? frame with
  | some (.request id method) => s.replyTo id method
  | some (.notification method params) => s.note method params
  | some (.response id body) => (s, [.answer id body])
  | none => (s, [])

/-- What comes of a body that is no JSON text. -/
def malformed (s : Session) : Session × List Outcome :=
  (s, [.log (Log.warning .session "Skipping frame with invalid JSON")])

/-- Ends the session: the timers of all documents are stopped. -/
def close (s : Session) : Session := s.documents.values.foldl (fun s d => s.stopTimer d.timer) s

end Session

end LintServer
