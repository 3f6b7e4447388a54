import LintServer.Linter

/-!
# Open editors

Events of editors start attempts, and the issues of a document go when its last editor is closed.

* `EditorEvent`, `Workspace`;
* **`Workspace.handle`**: one event;
* `Workspace.isOpen`: whether some editor shows a document.
-/

namespace LintServer

/-- What happens to an editor. -/
inductive EditorEvent where
  /-- It has been opened on a document. -/
  | added (e : EditorId) (d : Document)
  /-- Its document has come to rest after an edit. -/
  | settled (e : EditorId) (d : Document)
  /-- The syntax tag of its document has changed. -/
  | retagged (e : EditorId) (d : Document)
  /-- It has been closed. -/
  | destroyed (e : EditorId)
  deriving DecidableEq, Repr

/-- The document that an event asks to check. -/
def EditorEvent.document? : EditorEvent → Option Document
  | added _ d => some d
  | settled _ d => some d
  | retagged _ d => some d
  | destroyed _ => none

/-- The linter and the document of every open editor. -/
structure Workspace where
  linter : Linter
  editors : Table EditorId Uri
  deriving DecidableEq

namespace Workspace

/-- No editor is open. -/
def start (l : Linter) : Workspace := ⟨l, .empty⟩

/-- Whether some editor shows a document. -/
def isOpen (w : Workspace) (u : Uri) : Bool := w.editors.values.contains u

/-- One action of the linter. -/
def act (w : Workspace) (a : Action) : Workspace × List Effect :=
  let r := w.linter.step a
  ({ w with linter := r.1 }, r.2)

/-- Closes an editor. The issues of its document go unless another editor shows it. -/
def close (w : Workspace) (e : EditorId) : Workspace × List Effect :=
  match w.editors.get? e with
  | none => (w, [])
  | some u =>
    let w := { w with editors := w.editors.erase e }
    if w.isOpen u then (w, []) else w.act (.retract u)

/-- One event. Only an editor that is added is registered. -/
def handle (w : Workspace) : EditorEvent → Workspace × List Effect
  | .added e d => { w with editors := w.editors.insert e d.uri }.act (.check d)
  | .settled _ d => w.act (.check d)
  | .retagged _ d => w.act (.check d)
  | .destroyed e => w.close e

end Workspace

end LintServer
