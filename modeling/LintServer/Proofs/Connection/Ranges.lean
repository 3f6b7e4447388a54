import LintServer.Proofs.Connection.Relay
import LintServer.Proofs.Finding
import LintServer.Proofs.Report.Grammar
import LintServer.Run

/-!
# Where issues are shown

A position goes from the validator's output into a finding, from there into an issue and from the
issue into a frame. The column goes up by one and comes down again, and the line comes down by one.
Neither leaves the 32 bits, and what is shown is always one character wide.

* `Outgoing.Place`, `Outgoing.Range`, `Outgoing.ranges?`: where a frame shows issues;
* `range?_diagnostic`, `ranges?_publish`: where the issues of a document are shown;
* `Run.findings_of_first`, `Run.findings_eq_nil`: what a run reports;
* **`shown_at_position`**: from the output to the editor.
-/

namespace LintServer

namespace Outgoing

/-! ## Reading a frame -/

/-- A place in a document, counted from zero. -/
structure Place where
  line : Nat
  character : Nat
  deriving DecidableEq, Repr

/-- A part of a document, from one place up to another. -/
structure Range where
  start : Place
  stop : Place
  deriving DecidableEq, Repr

/-- The place that a value describes. -/
def place? (v : Json) : Option Place := do
  let line ← (v.get? "line").bind Json.natural?
  let character ← (v.get? "character").bind Json.natural?
  return ⟨line, character⟩

/-- The part of the document that a diagnostic marks. -/
def range? (d : Json) : Option Range := do
  let range ← d.get? "range"
  let start ← (range.get? "start").bind place?
  let stop ← (range.get? "end").bind place?
  return ⟨start, stop⟩

/-- The parts of the document that a frame marks. -/
def ranges? (f : Json) : Option (List Range) := do
  let params ← f.get? "params"
  let diagnostics ← (params.get? "diagnostics").bind Json.items?
  diagnostics.mapM range?

/-- One character of a document. -/
def Range.character (line character : Nat) : Range :=
  ⟨⟨line, character⟩, ⟨line, character + 1⟩⟩

/-! ## What is written into it -/

theorem toNat_fromZero (n : UInt32) : (fromZero n).toNat = n.toNat - 1 := by
  have hlt := n.toNat_lt
  unfold fromZero
  split_ifs with h
  · rw [h]
    rfl
  · have hne : n.toNat ≠ 0 := fun e => h (UInt32.toNat_inj.1 e)
    rw [UInt32.toNat_sub, UInt32.toNat_one]
    omega

theorem natural?_ofNat (n : Nat) : (Json.ofNat n).natural? = some n := by
  show (if (0 : Int) ≤ n then some (Int.toNat n) else none) = some n
  rw [if_pos (Int.natCast_nonneg n), Int.toNat_natCast]

theorem place?_position (line character : UInt32) :
    place? (position line character) = some ⟨line.toNat, character.toNat⟩ := by
  simp [place?, position, Json.get?_ofFields, List.lookup_cons, natural?_ofNat]

theorem range?_diagnostic (i : Issue) :
    range? (diagnostic i) = some (.character (i.line.toNat - 1) (i.column.toNat - 1)) := by
  have hstop : (nextColumn (fromZero i.column)).toNat = i.column.toNat - 1 + 1 := by
    have hlt := i.column.toNat_lt
    rw [toNat_nextColumn, toNat_fromZero]
    omega
  simp [range?, diagnostic, Json.get?_ofFields, List.lookup_cons, place?_position, toNat_fromZero,
    hstop, Range.character]

theorem mapM_range?_diagnostic (issues : List Issue) : (issues.map diagnostic).mapM range? =
    some (issues.map fun i => .character (i.line.toNat - 1) (i.column.toNat - 1)) := by
  induction issues with
  | nil => rfl
  | cons i issues ih =>
    rw [List.map_cons, List.mapM_cons, range?_diagnostic, ih]
    rfl

theorem ranges?_publish (u : Uri) (issues : List Issue) : ranges? (publish u issues) =
    some (issues.map fun i => .character (i.line.toNat - 1) (i.column.toNat - 1)) := by
  rw [← mapM_range?_diagnostic]
  simp [ranges?, publish, notification, publishParams, Json.get?_ofFields, Json.items?]

end Outgoing

/-! ## From the output -/

namespace Run

open Report (First Denotes)

variable {run : Run} {pre post : List Char} {m : Report.Match}

theorem findings_of_first {line column : UInt32} (hfail : run.success = false)
    (h : First run.output.toList pre m post) (hline : Denotes m.line line)
    (hcolumn : Denotes m.column column) :
    run.findings = [⟨line, column, String.ofList m.found, String.ofList m.expected⟩] := by
  have hsays : m.Says ⟨line, column, String.ofList m.found, String.ofList m.expected⟩ :=
    ⟨hline, hcolumn, String.toList_ofList, String.toList_ofList⟩
  rw [findings, Report.findingsOf, hfail, Report.findings_of_first h,
    (Report.Match.finding?_eq_some_iff h.wellFormed).2 hsays]
  rfl

theorem findings_eq_nil (h : run.success = true ∨
    ¬ ∃ pre m post, First run.output.toList pre m post ∧ m.Fits) : run.findings = [] := by
  rw [findings, Report.findingsOf]
  rcases h with h | h
  · rw [h]
    rfl
  · by_contra hne
    split_ifs at hne
    · exact hne rfl
    · obtain ⟨pre, m, post, r, hfirst, hr, _⟩ := Report.first_of_findings hne
      exact h ⟨pre, m, post, hfirst, m.fits_iff.2 ⟨r, hr⟩⟩

end Run

/-- **From the output to the editor.** A first report whose numbers fit marks one character, on the
line before and at the column, or the last but one; any other output marks nothing. -/
theorem Outgoing.shown_at_position (p : Publisher) (u : Uri) (run : Run) :
    let frames := (p.apply u run.findings).2.map Notice.frame
    (∀ pre m post line column, run.success = false →
      Report.First run.output.toList pre m post →
      Report.Denotes m.line line → Report.Denotes m.column column →
      frames.map ranges? = [some [⟨⟨max line.toNat 1 - 1, min column.toNat 4294967294⟩,
        ⟨max line.toNat 1 - 1, min column.toNat 4294967294 + 1⟩⟩]]) ∧
    ((run.success = true ∨ ¬ ∃ pre m post, Report.First run.output.toList pre m post ∧ m.Fits) →
      frames.map ranges? = [some []]) := by
  intro frames
  have hframes : frames.map ranges? = [some (run.findings.map fun r =>
      .character (r.line.toNat - 1) ((nextColumn r.column).toNat - 1))] := by
    show [ranges? (publish u (run.findings.map Issue.ofFinding))] = _
    rw [ranges?_publish, List.map_map]
    rfl
  rw [hframes]
  refine ⟨fun pre m post line column hfail hfirst hline hcolumn => ?_, fun h => ?_⟩
  · have hlt := column.toNat_lt
    have hl : line.toNat - 1 = max line.toNat 1 - 1 := by omega
    have hc : (nextColumn column).toNat - 1 = min column.toNat 4294967294 := by
      rw [toNat_nextColumn]
      omega
    rw [Run.findings_of_first hfail hfirst hline hcolumn, List.map_singleton, hl, hc]
    rfl
  · rw [Run.findings_eq_nil h]
    rfl

/-- Line zero and the last column are shown at the beginning of a document and just before the end of
the numbers. A line that does not fit hides the report behind it, and success hides everything. -/
theorem Outgoing.last_column_shown :
    let far := "line 0, col 4294967295, found: 'x' - expected: 'y'"
    let wide := "line 4294967296, col 0, found: 'x' - expected: 'y'"
    let shown := fun run : Run =>
      ((Publisher.empty.apply ⟨"a"⟩ run.findings).2.map Notice.frame).map ranges?
    shown ⟨false, "note: " ++ far⟩ = [some [⟨⟨0, 4294967294⟩, ⟨0, 4294967295⟩⟩]] ∧
    shown ⟨false, wide ++ far⟩ = [some []] ∧ shown ⟨true, far⟩ = [some []] := by
  intro far wide shown
  have hfirst : ∃ pre post, Report.First ("note: " ++ far).toList pre
      ⟨['0'], "4294967295".toList, ['x'], ['y']⟩ post :=
    Report.find?_eq_some_iff.1 (by decide +kernel)
  have hhidden : ∃ pre post, Report.First (wide ++ far).toList pre
      ⟨"4294967296".toList, ['0'], ['x'], ['y']⟩ post :=
    Report.find?_eq_some_iff.1 (by decide +kernel)
  refine ⟨?_, ?_, ?_⟩
  · obtain ⟨pre, post, h⟩ := hfirst
    exact (shown_at_position .empty ⟨"a"⟩ ⟨false, "note: " ++ far⟩).1 pre _ post 0 4294967295 rfl h
      ⟨List.all_eq_true.1 (by decide), by decide⟩ ⟨List.all_eq_true.1 (by decide), by decide⟩
  · obtain ⟨pre, post, h⟩ := hhidden
    refine (shown_at_position .empty ⟨"a"⟩ ⟨false, wide ++ far⟩).2 (.inr ?_)
    rintro ⟨pre', m, post', h', hfits⟩
    obtain ⟨_, rfl, _⟩ := h.eq h'
    exact absurd hfits.2.1 (by decide)
  · exact (shown_at_position .empty ⟨"a"⟩ ⟨true, far⟩).2 (.inl rfl)

end LintServer
