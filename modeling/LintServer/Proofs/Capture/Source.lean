import LintServer.Capture
import LintServer.Proofs.Text.Lossy
import Mathlib.Data.List.DropRight
import Mathlib.Data.List.Induction
import Mathlib.Data.List.TakeDrop

/-!
# The lines of one stream

* `Divided`, `divided`: bytes consist of ended lines and a rest, in one way;
* `linesOf`, `texts_eq`: the lines of some bytes, and their texts;
* `Takes`, `takes_of_next?`: all that a turn of a reader can do;
* `ready`, `left`: the lines that a reader can take now, and all that it is going to take.
-/

namespace LintServer.Source

open Text (trimEnd)
open Text.Utf8 (decodeLossy)

/-- The lines that have their line end. -/
def endedLines (bs : List UInt8) : List (List UInt8) := (bs.splitOn lineEnd).dropLast

/-- What stands behind the last line end. -/
def unended (bs : List UInt8) : List UInt8 := (bs.splitOn lineEnd).getLastD []

/-- All lines; what stands behind the last line end is one if there is anything. -/
def linesOf (bs : List UInt8) : List (List UInt8) := endedLines bs ++ [unended bs].filter (· ≠ [])

/-- Bytes consist of ended lines and a rest. -/
structure Divided (bs : List UInt8) (ended : List (List UInt8)) (rest : List UInt8) : Prop where
  eq : bs = ended.flatMap (· ++ [lineEnd]) ++ rest
  ended : ∀ l ∈ ended, lineEnd ∉ l
  rest : lineEnd ∉ rest

/-- What a turn of a reader takes, and what it leaves. -/
inductive Takes : Source → Option (List UInt8) → Source → Prop
  | line {l : List UInt8} (h : lineEnd ∉ l) (rest : List UInt8) :
    Takes (writing (l ++ lineEnd :: rest)) (some l) (writing rest)
  | late {l : List UInt8} (h : lineEnd ∉ l) (rest : List UInt8) :
    Takes (ended (l ++ lineEnd :: rest)) (some l) (ended rest)
  | last {l : List UInt8} (h : lineEnd ∉ l) (hne : l ≠ []) : Takes (ended l) (some l) (ended [])
  | close : Takes (ended []) none closed

/-- Nothing more will be written. -/
def isOver : Source → Bool
  | writing _ => false
  | _ => true

/-- The lines that the reader can take now. -/
def ready : Source → List (List UInt8)
  | writing bs => endedLines bs
  | ended bs => linesOf bs
  | closed => []

/-- The lines that the reader is going to take if some more bytes are written. -/
def left (more : List UInt8) : Source → List (List UInt8)
  | writing bs => linesOf (bs ++ more)
  | ended bs => linesOf bs
  | closed => []

variable {src src' : Source} {b : UInt8} {bs bs' rest rest' line : List UInt8}
  {ended ended' : List (List UInt8)} {taken : Option (List UInt8)}

/-! ## Dividing bytes -/

namespace Divided

theorem nil : Divided [] [] [] := ⟨rfl, nofun, List.not_mem_nil⟩

theorem of_not_mem (h : lineEnd ∉ bs) : Divided bs [] bs := ⟨rfl, nofun, h⟩

theorem cons (hline : lineEnd ∉ line) (h : Divided bs ended rest) :
    Divided (line ++ lineEnd :: bs) (line :: ended) rest where
  eq := by rw [h.eq]; simp
  ended := List.forall_mem_cons.2 ⟨hline, h.ended⟩
  rest := h.rest

theorem append (h : Divided bs ended rest) (h' : Divided (rest ++ bs') ended' rest') :
    Divided (bs ++ bs') (ended ++ ended') rest' where
  eq := by rw [h.eq, List.append_assoc, h'.eq, List.flatMap_append, List.append_assoc]
  ended := List.forall_mem_append.2 ⟨h.ended, h'.ended⟩
  rest := h'.rest

theorem splitOn_eq (h : Divided bs ended rest) : bs.splitOn lineEnd = ended ++ [rest] := by
  obtain ⟨rfl, hended, hrest⟩ := h
  induction ended with
  | nil => exact List.splitOn_eq_singleton hrest
  | cons l ended ih =>
    obtain ⟨hl, hended⟩ := List.forall_mem_cons.1 hended
    rw [List.flatMap_cons, List.append_assoc, List.append_assoc, List.singleton_append,
      List.splitOn_append_cons_self_of_not_mem hl, ih hended]
    rfl

theorem endedLines_eq (h : Divided bs ended rest) : endedLines bs = ended := by
  rw [endedLines, h.splitOn_eq, List.dropLast_concat]

theorem unended_eq (h : Divided bs ended rest) : unended bs = rest := by
  rw [unended, h.splitOn_eq, List.getLastD_concat]

theorem linesOf_eq (h : Divided bs ended rest) :
    linesOf bs = ended ++ [rest].filter (· ≠ []) := by
  rw [linesOf, h.endedLines_eq, h.unended_eq]

end Divided

/-- **Bytes are divided at their line ends**, in this way only. -/
theorem divided (bs : List UInt8) : Divided bs (endedLines bs) (unended bs) := by
  suffices h : ∃ ended rest, Divided bs ended rest by
    obtain ⟨ended, rest, h⟩ := h
    rwa [h.endedLines_eq, h.unended_eq]
  induction bs using List.reverseRecOn with
  | nil => exact ⟨[], [], .nil⟩
  | append_singleton bs b ih =>
    obtain ⟨ended, rest, h⟩ := ih
    by_cases hb : b = lineEnd
    · subst hb
      exact ⟨_, [], h.append (Divided.nil.cons h.rest)⟩
    · exact ⟨_, rest ++ [b], h.append (.of_not_mem (by simpa [h.rest] using Ne.symm hb))⟩

theorem unended_append (bs bs' : List UInt8) : unended (bs ++ bs') = unended (unended bs ++ bs') :=
  ((divided bs).append (divided _)).unended_eq

theorem endedLines_append (bs bs' : List UInt8) :
    endedLines (bs ++ bs') = endedLines bs ++ endedLines (unended bs ++ bs') :=
  ((divided bs).append (divided _)).endedLines_eq

theorem linesOf_nil : linesOf [] = [] := by
  rw [Divided.nil.linesOf_eq]
  rfl

theorem linesOf_line (h : lineEnd ∉ line) (bs : List UInt8) :
    linesOf (line ++ lineEnd :: bs) = line :: linesOf bs :=
  ((divided bs).cons h).linesOf_eq

theorem endedLines_line (h : lineEnd ∉ line) (bs : List UInt8) :
    endedLines (line ++ lineEnd :: bs) = line :: endedLines bs :=
  ((divided bs).cons h).endedLines_eq

theorem unended_line (h : lineEnd ∉ line) (bs : List UInt8) :
    unended (line ++ lineEnd :: bs) = unended bs :=
  ((divided bs).cons h).unended_eq

theorem splitOn_decodeLossy_eq (bs : List UInt8) :
    (decodeLossy bs).splitOn '\n' = (endedLines bs ++ [unended bs]).map decodeLossy := by
  rw [Text.Utf8.splitOn_decodeLossy, ← (divided bs).splitOn_eq]
  rfl

/-- The texts of all lines, also of a rest that is empty. -/
theorem texts_eq (bs : List UInt8) : (linesOf bs).flatMap (fun l => trimEnd (decodeLossy l)) =
    ((decodeLossy bs).splitOn '\n').flatMap trimEnd := by
  rw [splitOn_decodeLossy_eq, List.flatMap_map, linesOf, List.flatMap_append, List.flatMap_append]
  by_cases hrest : unended bs = []
  · rw [hrest]
    rfl
  · simp [hrest]

/-! ## Turns of the reader -/

theorem firstLine?_eq (bs : List UInt8) : firstLine? bs =
    match bs.dropWhile (· ≠ lineEnd) with
    | _ :: rest => some (bs.takeWhile (· ≠ lineEnd), rest)
    | [] => none := by
  rw [firstLine?, List.span_eq_takeWhile_dropWhile]
  generalize bs.dropWhile (· ≠ lineEnd) = rest
  cases rest <;> rfl

theorem firstLine?_eq_some (h : firstLine? bs = some (line, rest)) :
    bs = line ++ lineEnd :: rest ∧ lineEnd ∉ line := by
  rw [firstLine?_eq] at h
  split at h
  · rename_i b rest' hdrop
    cases h
    obtain rfl : b = lineEnd := by
      have hhead := List.head_dropWhile_not (· ≠ lineEnd) (hdrop ▸ List.cons_ne_nil b rest)
      simpa only [hdrop, List.head_cons, decide_eq_false_iff_not, not_not] using hhead
    refine ⟨?_, fun hmem => by simpa using List.mem_takeWhile_imp hmem⟩
    rw [← hdrop, List.takeWhile_append_dropWhile]
  · cases h

theorem not_mem_of_firstLine? (h : firstLine? bs = none) : lineEnd ∉ bs := by
  rw [firstLine?_eq] at h
  split at h
  · cases h
  · rename_i hdrop
    exact fun hmem => by simpa using List.dropWhile_eq_nil_iff.1 hdrop _ hmem

theorem next?_ended (hne : bs ≠ []) : (Source.ended bs).next? =
    match firstLine? bs with
    | some (line, rest) => some (some line, Source.ended rest)
    | none => some (some bs, Source.ended []) := by
  cases bs with
  | nil => exact absurd rfl hne
  | cons b bs => rfl

theorem takes_of_next? (h : src.next? = some (taken, src')) : Takes src taken src' := by
  cases src with
  | writing bs =>
    obtain ⟨⟨line, rest⟩, hfirst, heq⟩ := Option.map_eq_some_iff.1 h
    obtain ⟨rfl, hline⟩ := firstLine?_eq_some hfirst
    cases heq
    exact .line hline rest
  | ended bs =>
    by_cases hne : bs = []
    · subst hne
      cases h
      exact .close
    · rw [next?_ended hne] at h
      cases hfirst : firstLine? bs with
      | some p =>
        obtain ⟨rfl, hline⟩ := firstLine?_eq_some hfirst
        rw [hfirst] at h
        cases h
        exact .late hline p.2
      | none =>
        rw [hfirst] at h
        cases h
        exact .last (not_mem_of_firstLine? hfirst) hne
  | closed => cases h

theorem waits_of_next? (h : src.next? = none) :
    src = closed ∨ ∃ bs, src = writing bs ∧ lineEnd ∉ bs := by
  cases src with
  | writing bs => exact .inr ⟨bs, rfl, not_mem_of_firstLine? (Option.map_eq_none_iff.1 h)⟩
  | ended bs =>
    by_cases hne : bs = []
    · subst hne
      cases h
    · rw [next?_ended hne] at h
      split at h <;> cases h
  | closed => exact .inl rfl

theorem ready_eq_nil (h : src.next? = none) : src.ready = [] := by
  obtain rfl | ⟨bs, rfl, hbs⟩ := waits_of_next? h
  · rfl
  · exact (Divided.of_not_mem hbs).endedLines_eq

theorem eq_closed (h : src.next? = none) (hover : src.isOver) : src = closed := by
  obtain rfl | ⟨bs, rfl, -⟩ := waits_of_next? h
  · rfl
  · cases hover

namespace Takes

theorem ready_eq (h : Takes src taken src') : src.ready = taken.toList ++ src'.ready := by
  cases h with
  | line h rest => exact endedLines_line h rest
  | late h rest => exact linesOf_line h rest
  | last h hne =>
    rw [ready, (Divided.of_not_mem h).linesOf_eq, ready, linesOf_nil]
    simp [hne]
  | close => exact linesOf_nil

theorem left_eq (h : Takes src taken src') (more : List UInt8) :
    src.left more = taken.toList ++ src'.left more := by
  cases h with
  | line h rest =>
    rw [left, List.append_assoc, List.cons_append, linesOf_line h]
    rfl
  | late h rest => exact linesOf_line h rest
  | last h hne =>
    rw [left, (Divided.of_not_mem h).linesOf_eq, left, linesOf_nil]
    simp [hne]
  | close => exact linesOf_nil

theorem size_lt (h : Takes src taken src') : src'.size < src.size := by
  cases h with
  | line h rest =>
    simp only [size, List.length_append, List.length_cons]
    omega
  | late h rest =>
    simp only [size, List.length_append, List.length_cons]
    omega
  | last h hne => simpa [size] using List.length_pos_iff.2 hne
  | close => exact Nat.one_pos

theorem isOver_eq (h : Takes src taken src') : src'.isOver = src.isOver := by
  cases h <;> rfl

theorem eq_closed (h : Takes src none src') : src' = closed := by
  cases h
  rfl

theorem eq_writing (h : Takes src taken (writing rest)) :
    ∃ bs, src = writing bs ∧ unended rest = unended bs := by
  cases h with
  | line h rest => exact ⟨_, rfl, (unended_line h rest).symm⟩

end Takes

end LintServer.Source
