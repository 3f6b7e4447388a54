import LintServer.Capture
import LintServer.Proofs.Report.Grammar

/-!
# A printed finding

The lines of an output are kept without the blanks at their ends and follow each other without
anything between them, so what stands in front of a report can become a part of it. The word that a
report begins with does not overlap itself: unless it stands in front of the report it cannot begin
there, and the report is found.

* `Finding.printed`, `Match.ofFinding`: a finding in the form of a report;
* `infix_of_overlap`: a word that does not overlap itself;
* **`printed_line_found`**: a report on one line is found, whatever is printed before and after it.
-/

namespace LintServer

/-- A finding in the form of a report. -/
def Finding.printed (r : Finding) : String :=
  s!"line {r.line}, col {r.column}, found: '{r.found}' - expected: '{r.expected}'"

namespace Report

variable {pre post : List Char} {m : Match} {r : Finding}

/-! ## The parts of a printed finding -/

/-- The parts of a finding, as they are printed. -/
def Match.ofFinding (r : Finding) : Match :=
  ⟨Nat.toDigits 10 r.line.toNat, Nat.toDigits 10 r.column.toNat, r.found.toList, r.expected.toList⟩

theorem toList_printed (r : Finding) : r.printed.toList = (Match.ofFinding r).chars := by
  have hdigits : ∀ n : UInt32, (toString n).toList = Nat.toDigits 10 n.toNat :=
    fun n => String.toList_ofList
  unfold Finding.printed Match.chars Match.ofFinding
  simp only [String.toList_append, hdigits, List.append_assoc]
  rfl

theorem row_toDigits (n : Nat) : Row Text.isDigit (Nat.toDigits 10 n) :=
  ⟨Nat.toDigits_ne_nil, fun c hc =>
    Text.isDigit_of_isAsciiDigit (Text.isAsciiDigit_of_mem_toDigits n c hc)⟩

theorem row_token {t : String} (hne : t ≠ "") (hquote : '\'' ∉ t.toList) :
    Row (· ≠ '\'') t.toList :=
  ⟨fun hnil => hne (String.toList_eq_nil_iff.1 hnil),
    fun _ hc => decide_eq_true fun e => hquote (e ▸ hc)⟩

theorem says_ofFinding (r : Finding) : (Match.ofFinding r).Says r where
  line := ⟨Text.isAsciiDigit_of_mem_toDigits _, Text.digitsValue_toDigits _⟩
  column := ⟨Text.isAsciiDigit_of_mem_toDigits _, Text.digitsValue_toDigits _⟩
  found := rfl
  expected := rfl

theorem trimEnd_report (s t : List Char) (m : Match) :
    Text.trimEnd (s ++ (m.chars ++ t)) = s ++ (m.chars ++ Text.trimEnd t) := by
  have hquote : m.chars.getLast? = some '\'' := by
    unfold Match.chars
    simp only [List.getLast?_append, List.getLast?_singleton, Option.some_or]
  obtain ⟨x, hx⟩ := List.getLast?_eq_some_iff.1 hquote
  rw [hx, List.append_assoc, List.singleton_append, ← List.append_assoc,
    Text.trimEnd_append_cons (by decide), List.append_assoc, List.append_assoc,
    List.singleton_append]

/-! ## Places before a report -/

/-- A word does not overlap itself if its first character stands nowhere else in it. If it begins in
front of another place where it stands, it stands there. -/
theorem infix_of_overlap {α : Type} {c : α} {w pre pre' s t : List α} (hc : c ∉ w)
    (h : pre' ++ (c :: w ++ s) = pre ++ (c :: w ++ t)) (hlt : pre'.length < pre.length) :
    c :: w <:+: pre := by
  obtain ⟨d, rfl, hd⟩ | ⟨d, rfl, -⟩ := List.append_eq_append_iff.1 h
  · obtain ⟨e, rfl, -⟩ | ⟨e, he, ht⟩ := List.append_eq_append_iff.1 hd
    · exact ⟨pre', e, List.append_assoc _ _ _⟩
    · -- The word is `d` and some more, and that begins with the first character again.
      obtain ⟨d, rfl⟩ : ∃ d', d = c :: d' := by
        cases d with
        | nil =>
          rw [List.append_nil] at hlt
          exact absurd hlt (Nat.lt_irrefl _)
        | cons b d => exact ⟨d, by rw [(List.cons.inj he).1]⟩
      cases e with
      | nil => exact ⟨pre', [], by rw [he, List.append_nil, List.append_nil]⟩
      | cons b e =>
        obtain rfl : c = b := (List.cons.inj ht).1
        have hmem : c ∈ w := by
          rw [(List.cons.inj he).2]
          exact List.mem_append_right _ List.mem_cons_self
        exact absurd hmem hc
  · rw [List.length_append] at hlt
    omega

/-- Where the first word of a report does not stand in front of it, no other one begins. -/
theorem first_of_no_word (hm : m.WellFormed) (hpre : ¬ "line ".toList <:+: pre) :
    First (pre ++ (m.chars ++ post)) pre m post := by
  refine ⟨⟨rfl, hm⟩, fun pre' m' post' h => Nat.le_of_not_lt fun hlt => hpre ?_⟩
  have heq := h.text_eq.symm
  unfold Match.chars at heq
  simp only [List.append_assoc] at heq
  exact infix_of_overlap (c := 'l') (by decide) heq hlt

/-! ## Captured lines -/

theorem toList_output_lines (c : Capture) (lines : List String) :
    (lines.foldl Capture.pushLine c).output.toList =
      c.output.toList ++ lines.flatMap fun l => Text.trimEnd l.toList := by
  induction lines generalizing c with
  | nil => exact (List.append_nil _).symm
  | cons l lines ih =>
    rw [List.foldl_cons, ih, List.flatMap_cons, ← List.append_assoc]
    simp [Capture.pushLine, Text.trimmedEnd]

/-- **A report on one line is found**, whatever stands around it, unless the first word of a report
stands in what is kept in front of it. -/
theorem printed_line_found (before after : List String) (indent more : String) (r : Finding)
    (hfound : r.found ≠ "" ∧ '\'' ∉ r.found.toList)
    (hexpected : r.expected ≠ "" ∧ '\'' ∉ r.expected.toList)
    (hword : ¬ "line ".toList <:+:
      before.flatMap (fun l => Text.trimEnd l.toList) ++ indent.toList) :
    let lines := before ++ (indent ++ r.printed ++ more) :: after
    let output := (lines.foldl Capture.pushLine Capture.empty).output
    findings output = [r] ∧ ∀ success, findingsOf success output = [r] ↔ success = false := by
  intro lines output
  have hm : (Match.ofFinding r).WellFormed :=
    ⟨row_toDigits _, row_toDigits _, row_token hfound.1 hfound.2,
      row_token hexpected.1 hexpected.2⟩
  have houtput : output.toList = (before.flatMap (fun l => Text.trimEnd l.toList) ++ indent.toList) ++
      ((Match.ofFinding r).chars ++ (Text.trimEnd more.toList ++
        after.flatMap fun l => Text.trimEnd l.toList)) := by
    simp only [output, lines, toList_output_lines, List.flatMap_append, List.flatMap_cons,
      String.toList_append, toList_printed, List.append_assoc, trimEnd_report]
    rfl
  have hr : findings output = [r] := by
    rw [findings_of_first (houtput ▸ first_of_no_word hm hword),
      (Match.finding?_eq_some_iff hm).2 (says_ofFinding r)]
    rfl
  refine ⟨hr, fun success => ?_⟩
  cases success with
  | true => simp [findingsOf]
  | false => simp [findingsOf, hr]

/-- What is kept of the lines in front ends in the first letters of the word, another report begins
inside a token, and one more follows. -/
theorem report_behind_split_word_found :
    let before := ["Error:  ", "in lin"]
    let after := ["line 7, col 8, found: 'a' - expected: 'b'"]
    let r : Finding := ⟨4294967295, 0, "line 1, col 2, found: ", "]"⟩
    let lines := before ++ (" " ++ r.printed ++ " '.  ") :: after
    let output := (lines.foldl Capture.pushLine Capture.empty).output
    r.printed = "line 4294967295, col 0, found: 'line 1, col 2, found: ' - expected: ']'" ∧
      findings output = [r] ∧ ∀ success, findingsOf success output = [r] ↔ success = false := by
  intro before after r lines output
  have hword : ¬ "line ".toList <:+:
      before.flatMap (fun l => Text.trimEnd l.toList) ++ " ".toList := by
    decide +kernel
  refine ⟨by decide +kernel, printed_line_found before after " " " '.  " r ?_ ?_ hword⟩
  · exact ⟨by decide, by decide⟩
  · exact ⟨by decide, by decide⟩

end Report

end LintServer
