import LintServer.Finding
import LintServer.Text.Digit

/-!
# The validator's report

The validator prints a problem as a position and two tokens between single quotes. The first place
in the output where this form stands decides; if its numbers do not fit, nothing is reported.

* `Report.Match`, `Report.matchAt?`: the form at the start of a text;
* **`Report.findings`**: the finding in an output, if there is one;
* `Report.findingsOf`: a run that succeeded reports nothing, whatever it printed.
-/

namespace LintServer.Report

/-- The parts of the form, as they are printed. -/
structure Match where
  line : List Char
  column : List Char
  found : List Char
  expected : List Char
  deriving DecidableEq, Repr

/-- What follows a word at the start of a text. -/
def after? : List Char → List Char → Option (List Char)
  | [], s => some s
  | w :: ws, c :: s => if w = c then after? ws s else none
  | _ :: _, [] => none

/-- The characters at the start of a text that have a property, at least one, and what follows. -/
def some1? (p : Char → Bool) (s : List Char) : Option (List Char × List Char) :=
  let r := s.span p
  if r.1.isEmpty then none else some r

/-- The form at the start of a text. -/
def matchAt? (s : List Char) : Option Match := do
  let s ← after? "line ".toList s
  let (line, s) ← some1? Text.isDigit s
  let s ← after? ", col ".toList s
  let (column, s) ← some1? Text.isDigit s
  let s ← after? ", found: '".toList s
  let (found, s) ← some1? (· ≠ '\'') s
  let s ← after? "' - expected: '".toList s
  let (expected, s) ← some1? (· ≠ '\'') s
  let _ ← after? ['\''] s
  return ⟨line, column, found, expected⟩

/-- The first place in a text where the form stands. -/
def find? : List Char → Option Match
  | [] => none
  | c :: s =>
    match matchAt? (c :: s) with
    | some m => some m
    | none => find? s

/-- The number of 32 bits that ASCII digits denote. -/
def position? (ds : List Char) : Option UInt32 :=
  (Text.readWithin? (UInt32.size - 1) ds).map UInt32.ofNat

/-- The finding that the parts describe, if both numbers fit. -/
def Match.finding? (m : Match) : Option Finding := do
  let line ← position? m.line
  let column ← position? m.column
  return ⟨line, column, String.ofList m.found, String.ofList m.expected⟩

/-- The finding in an output; none or one. -/
def findings (output : String) : List Finding :=
  ((find? output.toList).bind Match.finding?).toList

/-- What a finished run reports. -/
def findingsOf (success : Bool) (output : String) : List Finding :=
  if success then [] else findings output

end LintServer.Report
