import LintServer.Document
import LintServer.Host
import LintServer.Json.Basic

/-!
# Messages from the editor

* `Incoming`, **`Incoming.ofFrame?`**: a frame is a request, a notification or a response, or
  nothing of these;
* `Json.record?`: the values of named fields, given by name or in their order;
* `openParams?`, `changeParams?`, `closeParams?`: what the notifications about documents carry;
* `replyTo`: what a response to a notification with actions says.
-/

namespace LintServer

/-- A frame from the editor. -/
inductive Incoming where
  | request (id : Json) (method : String)
  | notification (method : String) (params : Json)
  /-- The answer to a request of the server; those have numbers for ids. -/
  | response (id : Nat) (body : Json)
  deriving Repr

/-- The text of a field. -/
def Json.textAt? (key : String) (v : Json) : Option String := (v.get? key).bind Json.string?

namespace Incoming

/-- Whether a frame carries a result or an error. -/
def isReply (frame : Json) : Bool := (frame.get? "result").isSome || (frame.get? "error").isSome

/-- What a frame is. -/
def ofFrame? (frame : Json) : Option Incoming :=
  match frame.get? "id", frame.textAt? "method" with
  | some id, some method => some (.request id method)
  | none, some method => some (.notification method ((frame.get? "params").getD .null))
  | some id, none => if isReply frame then id.natural?.map fun n => .response n frame else none
  | none, none => none

end Incoming

/-! ## Parameters -/

/-- The values of the named fields. They are given by an object, which may have other fields too, or
by an array of exactly these values. -/
def Json.record? (names : List String) : Json → Option (List Json)
  | .object fields => names.mapM fun name => fields.lookup name
  | .array items => if items.length = names.length then some items else none
  | _ => none

namespace Incoming

/-- The identity of a document. -/
def uri? (v : Json) : Option Uri := v.string?.map Uri.mk

/-- The identity in a record of its own. -/
def identifier? (v : Json) : Option Uri :=
  match v.record? ["uri"] with
  | some [uri] => uri? uri
  | _ => none

/-- A document with its syntax tag and its text. -/
def document? (v : Json) : Option Document :=
  match v.record? ["uri", "languageId", "text"] with
  | some [uri, tag, text] => do return ⟨← uri? uri, ← tag.string?, ← text.string?⟩
  | _ => none

/-- The document that has been opened. -/
def openParams? (v : Json) : Option Document :=
  match v.record? ["textDocument"] with
  | some [d] => document? d
  | _ => none

/-- The text of a change. -/
def change? (v : Json) : Option String :=
  match v.record? ["text"] with
  | some [text] => text.string?
  | _ => none

/-- The document that has been edited, and its texts after the changes. -/
def changeParams? (v : Json) : Option (Uri × List String) :=
  match v.record? ["textDocument", "contentChanges"] with
  | some [d, changes] => do return (← identifier? d, ← (← changes.items?).mapM change?)
  | _ => none

/-- The document that has been closed. -/
def closeParams? (v : Json) : Option Uri :=
  match v.record? ["textDocument"] with
  | some [d] => identifier? d
  | _ => none

/-! ## Answers to a notification with actions -/

/-- The index of the action that a response names. -/
def chosenAction? (n : Notification) (reply : Json) : Option Nat := do
  let title ← (← reply.get? "result").textAt? "title"
  n.actions.findIdx? (· = title)

/-- What a response says: a rejection, an action, or that none was chosen. -/
def replyTo (n : Notification) (reply : Json) : Except HostError (Option Nat) :=
  match reply.get? "error" with
  | some e => .error (.rejected ((e.textAt? "message").getD "unknown error"))
  | none => .ok (chosenAction? n reply)

end Incoming

end LintServer
