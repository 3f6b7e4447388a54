import LintServer.Linter
import LintServer.Protocol.Incoming
import LintServer.Protocol.Outgoing

/-!
# Connections

The way to the editor: frames wait in line until they are written, one after the other. Requests of
the server have numbers of their own, counted from one.

* `Connection.Item`, `Connection`: a frame, or the sign to stop writing; the line of them;
* `Connection.send`, `tell`, `notify`, `showConfig`: what goes to the editor;
* `Connection.answer?`: the answer to a request that still waits for one;
* `Connection.next?`, `Connection.written`: the writing of the line.
-/

namespace LintServer

namespace Connection

/-- What waits in line. -/
inductive Item where
  | frame (f : Json)
  /-- Nothing behind it is written. -/
  | stop
  deriving Repr

/-- What the writer does. -/
inductive Writer where
  | idle
  | writing
  | stopped
  deriving DecidableEq, Repr

end Connection

/-- The way to the editor. -/
structure Connection where
  /-- What waits to be written, the next first. -/
  line : List Connection.Item
  writer : Connection.Writer
  /-- How many requests there have been. -/
  requests : Nat
  /-- The notifications that wait for an answer, under the numbers of their requests. -/
  pending : Table Nat Notification
  /-- The file that shows the configuration. -/
  configPath : Option Path

namespace Connection

/-- An open connection over which nothing has been sent. -/
def start (configPath : Option Path) : Connection := ⟨[], .idle, 0, .empty, configPath⟩

/-- Whether frames can still be sent; they may get stuck behind the sign to stop. -/
def isOpen (c : Connection) : Bool := c.writer ≠ .stopped

/-- Puts an item in line, if the connection is open. -/
def put (c : Connection) (i : Item) : Connection :=
  if c.isOpen then { c with line := c.line ++ [i] } else c

/-- Sends a frame, if the connection is open. -/
def send (c : Connection) (f : Json) : Connection := c.put (.frame f)

/-- Tells the editor about a document. One that is no longer tracked has no issues. -/
def tell (c : Connection) : Notice → Connection
  | .publish u issues => c.send (Outgoing.publish u issues)
  | .clear u => c.send (Outgoing.publish u [])

/-- Shows a notification. The answer is there at once if the connection is closed. -/
def notify (c : Connection) (n : Notification) : Connection × Option HostError :=
  let id := c.requests + 1
  let c := { c with requests := id }
  if c.isOpen then
    ({ c with pending := c.pending.insert id n }.send
      (Outgoing.request id "window/showMessageRequest" (Outgoing.messageParams n)), none)
  else (c, some .disconnected)

/-- Shows the configuration, if there is a file for it. -/
def showConfig (c : Connection) : Connection × Except HostError Unit :=
  match c.configPath with
  | none => (c, .error (.rejected "no configuration file location"))
  | some path =>
    match path.fileUri? with
    | none => (c, .error (.rejected path.noUriMessage))
    | some uri =>
      let id := c.requests + 1
      let c := { c with requests := id }
      if c.isOpen then
        (c.send (Outgoing.request id "window/showDocument" (Outgoing.documentParams uri)), .ok ())
      else (c, .error .disconnected)

/-- Takes the answer to a request. Only the first one to a notification that waits counts. -/
def answer? (c : Connection) (id : Nat) (body : Json) :
    Option (Connection × Except HostError (Option Nat)) :=
  (c.pending.get? id).map fun n =>
    ({ c with pending := c.pending.erase id }, Incoming.replyTo n body)

/-! ## Writing -/

/-- Takes the next item from the line, if the writer is idle: a frame to write, or nothing more. -/
def next? (c : Connection) : Option (Connection × Option Json) :=
  match c.writer, c.line with
  | .idle, .frame f :: rest => some ({ c with line := rest, writer := .writing }, some f)
  | .idle, .stop :: _ => some ({ c with line := [], writer := .stopped }, none)
  | _, _ => none

/-- A frame has been written, or could not be: then the writer stops. -/
def written (c : Connection) (r : Except Fault Unit) : Connection :=
  if c.writer = .writing then
    match r with
    | .ok () => { c with writer := .idle }
    | .error _ => { c with line := [], writer := .stopped }
  else c

end Connection

end LintServer
