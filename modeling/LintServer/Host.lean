/-!
# The editor's side

What the server asks of the editor besides showing issues, and how the editor may fail.

* `Notification`: a message with actions to choose from;
* `HostError`: why the editor did not do what it was asked.
-/

namespace LintServer

/-- A message to the user with actions to choose from. -/
structure Notification where
  /-- The same for every repetition of the message. -/
  id : String
  title : String
  body : String
  actions : List String
  deriving DecidableEq, Repr

/-- Why the editor did not do what it was asked. -/
inductive HostError where
  | disconnected
  | rejected (reason : String)
  deriving DecidableEq, Repr

/-- Why the editor failed, in words. -/
def HostError.message : HostError → String
  | disconnected => "editor connection closed"
  | rejected reason => s!"editor rejected request: {reason}"

end LintServer
