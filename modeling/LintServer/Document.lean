/-!
# Documents

* `Uri`: the identity of a document, compared character by character;
* `EditorId`: the identity of an editor; several editors may show one document;
* `Document`: a document as an editor shows it at one moment.
-/

namespace LintServer

/-- The identity of a document, as the editor writes it. -/
structure Uri where
  text : String
  deriving DecidableEq, Repr

/-- The identity of an editor. -/
structure EditorId where
  number : Nat
  deriving DecidableEq, Repr

/-- The name of an editor in messages. -/
def EditorId.render (e : EditorId) : String := s!"editor#{e.number}"

/-- A document at one moment. -/
structure Document where
  uri : Uri
  /-- The syntax tag that the editor gives the document. -/
  tag : String
  text : String
  deriving DecidableEq, Repr

end LintServer
