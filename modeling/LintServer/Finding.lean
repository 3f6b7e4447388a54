import LintServer.Json.Literal

/-!
# Findings and issues

A finding is what the validator says about a document; an issue is what the editor is shown.

* `Finding`, `Issue`;
* **`Issue.ofFinding`**: columns of a finding count from zero and those of an issue from one, up to
  the greatest column;
* `Issue.message`: the token that was found as a JSON string, and the one expected as it is.
-/

namespace LintServer

/-- One problem that the validator reports. -/
structure Finding where
  line : UInt32
  /-- The column, counted from zero. -/
  column : UInt32
  /-- The token that stands there. -/
  found : String
  /-- The token that should. -/
  expected : String
  deriving DecidableEq, Repr

/-- How grave an issue is. The validator knows errors only. -/
inductive Severity where
  | error
  deriving DecidableEq, Repr

/-- The number of a severity in the protocol. -/
def Severity.number : Severity → Nat
  | error => 1

/-- One problem as the editor shows it. -/
structure Issue where
  severity : Severity
  line : UInt32
  /-- The column, counted from one. -/
  column : UInt32
  message : String
  deriving DecidableEq, Repr

/-- The next column, or the greatest one again. -/
def nextColumn (c : UInt32) : UInt32 := if c = 0xFFFFFFFF then c else c + 1

/-- What the editor is told about a token that was found in place of another. -/
def Finding.message (f : Finding) : String :=
  Json.Literal.write "Found " f.found ++ "; Expected " ++ f.expected

/-- The issue that shows a finding. -/
def Issue.ofFinding (f : Finding) : Issue :=
  ⟨.error, f.line, nextColumn f.column, f.message⟩

end LintServer
