import LintServer.Finding
import LintServer.Document
import LintServer.Host
import LintServer.Json.Basic
import LintServer.Path

/-!
# Messages to the editor

* `Outgoing.response`, `errorResponse`, `request`, `notification`: the frames;
* `Outgoing.initializeResult`: what the server can do;
* **`Outgoing.publishParams`**: the issues of a document, with positions counted from zero;
* `Outgoing.messageParams`, `documentParams`: a notification with actions, a document to show.
-/

namespace LintServer.Outgoing

/-- A whole number as a value. -/
def number (z : Int) : Json := .number (.int z)

/-- Every frame names the version of the protocol. -/
def version : String × Json := ("jsonrpc", "2.0")

/-- The reply to a request. -/
def response (id result : Json) : Json := Json.ofFields [version, ("id", id), ("result", result)]

/-- The reply to a request that is refused. -/
def errorResponse (id : Json) (code : Int) (message : String) : Json :=
  Json.ofFields [version, ("id", id),
    ("error", Json.ofFields [("code", number code), ("message", message)])]

/-- A request to the editor. -/
def request (id : Nat) (method : String) (params : Json) : Json :=
  Json.ofFields [version, ("id", .ofNat id), ("method", method), ("params", params)]

/-- A notification to the editor. -/
def notification (method : String) (params : Json) : Json :=
  Json.ofFields [version, ("method", method), ("params", params)]

/-- The code of a request that the server does not know. -/
def methodNotFound : Int := -32601

/-- The code of a request after the shutdown. -/
def invalidRequest : Int := -32600

/-- What the server can do: documents are opened and closed, and sent as a whole when they
change. -/
def initializeResult : Json :=
  Json.ofFields [
    ("capabilities", Json.ofFields [
      ("textDocumentSync", Json.ofFields [("openClose", true), ("change", .ofNat 1)])]),
    ("serverInfo", Json.ofFields [("name", "jsonlint-ls"), ("version", "0.0.0")])]

/-! ## Issues -/

/-- A position counted from one, counted from zero instead. -/
def fromZero (n : UInt32) : UInt32 := if n = 0 then 0 else n - 1

/-- A position in a document. -/
def position (line character : UInt32) : Json :=
  Json.ofFields [("line", .ofNat line.toNat), ("character", .ofNat character.toNat)]

/-- An issue, shown at one character. -/
def diagnostic (i : Issue) : Json :=
  let line := fromZero i.line
  let character := fromZero i.column
  Json.ofFields [
    ("range", Json.ofFields [
      ("start", position line character),
      ("end", position line (nextColumn character))]),
    ("severity", .ofNat i.severity.number),
    ("source", "jsonlint"),
    ("message", i.message)]

/-- The issues of a document. -/
def publishParams (u : Uri) (issues : List Issue) : Json :=
  Json.ofFields [("uri", u.text), ("diagnostics", .array (issues.map diagnostic))]

/-- The notification that shows the issues of a document. -/
def publish (u : Uri) (issues : List Issue) : Json :=
  notification "textDocument/publishDiagnostics" (publishParams u issues)

/-! ## Requests -/

/-- A message with actions; it is an error message. -/
def messageParams (n : Notification) : Json :=
  Json.ofFields [
    ("type", .ofNat 1),
    ("message", .string s!"{n.title}: {n.body}"),
    ("actions", .array (n.actions.map fun title => Json.ofFields [("title", .string title)]))]

/-- A document that the editor is to show by itself. -/
def documentParams (uri : String) : Json :=
  Json.ofFields [("uri", uri), ("external", false), ("takeFocus", true)]

end LintServer.Outgoing
