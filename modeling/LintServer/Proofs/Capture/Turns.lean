import LintServer.Proofs.Capture.Source
import Mathlib.Data.Set.Function
import Mathlib.Logic.Function.Basic

/-!
# The turns of two readers

A run writes to its streams in pieces, cut anywhere, and the readers have their turns in between.
The lines of a stream are told from its bytes alone, and the order of all lines from the turns.

* `writes`, `turns`, `bytesOn`: what has been written, and whose turn it was;
* `Line`, `linesOn`, `dealt`: lines, and lines dealt out in turns;
* `Moved`, `moved_of_move?`: all that a move can do;
* `linesRead`, `output_run`: the lines that are read on the way, and what is kept of them;
* **`linesRead_eq_dealt`**: the turns deal out the lines of the streams.
-/

namespace LintServer.Capture

open Source (lineEnd endedLines unended linesOf Divided divided Takes)
open Text (trimEnd)
open Text.Utf8 (decodeLossy)

/-! ## What happens -/

namespace Piece

def stream : Piece → OutputStream
  | wrote s _ => s
  | ended s => s

/-- The bytes that a piece holds for a stream. -/
def bytesOn (s : OutputStream) : Piece → List UInt8
  | wrote s' bytes => if s' = s then bytes else []
  | ended _ => []

end Piece

namespace Move

def piece? : Move → Option Piece
  | came p => some p
  | took _ => none

def turn? : Move → Option OutputStream
  | came _ => none
  | took s => some s

end Move

/-- The pieces that come. -/
def writes (ms : List Move) : List Piece := ms.filterMap Move.piece?

/-- The turns of the readers. -/
def turns (ms : List Move) : List OutputStream := ms.filterMap Move.turn?

/-- The bytes that are written to a stream. -/
def bytesOn (s : OutputStream) (ps : List Piece) : List UInt8 := ps.flatMap (Piece.bytesOn s)

/-! ## Lines -/

/-- A line of a stream. -/
structure Line where
  stream : OutputStream
  bytes : List UInt8
  deriving DecidableEq, Repr

/-- What is kept of a line. -/
def Line.text (l : Line) : List Char := trimEnd (decodeLossy l.bytes)

/-- The lines of one stream. -/
def linesOn (s : OutputStream) (ls : List Line) : List (List UInt8) :=
  (ls.filter (·.stream = s)).map (·.bytes)

/-- The lines that are left on each stream, dealt out in turns. -/
def dealt (left : OutputStream → List (List UInt8)) : List OutputStream → List Line
  | [] => []
  | s :: ss =>
    match left s with
    | [] => dealt left ss
    | l :: ls => ⟨s, l⟩ :: dealt (Function.update left s ls) ss

/-! ## Moves -/

/-- What a move does. -/
inductive Moved (c : Capture) : Move → Capture → Prop
  | wrote {s : OutputStream} {bs : List UInt8} (h : c.source s = .writing bs)
    (bytes : List UInt8) : Moved c (.came (.wrote s bytes)) (c.setSource s (.writing (bs ++ bytes)))
  | ended {s : OutputStream} {bs : List UInt8} (h : c.source s = .writing bs) :
    Moved c (.came (.ended s)) (c.setSource s (.ended bs))
  | took {s : OutputStream} {taken : Option (List UInt8)} {src : Source}
    (hnext : (c.source s).next? = some (taken, src)) (h : Takes (c.source s) taken src) :
    Moved c (.took s) ((c.setSource s src).keep taken)

/-- The line that a move reads. -/
def lineOf? (c : Capture) : Move → Option Line
  | .came _ => none
  | .took s => ((c.source s).next?.bind (·.1)).map (Line.mk s)

/-- The lines that moves read one after the other. -/
def linesRead (c : Capture) : List Move → List Line
  | [] => []
  | m :: ms => (c.lineOf? m).toList ++ ((c.move? m).map (linesRead · ms)).getD []

variable {c c' c'' : Capture} {s s' : OutputStream} {src : Source} {bs : List UInt8}
  {taken : Option (List UInt8)} {p : Piece} {ps : List Piece} {m : Move} {ms ms' : List Move}

theorem source_setSource (c : Capture) (s : OutputStream) (src : Source) :
    (c.setSource s src).source = Function.update c.source s src := by
  funext s'
  cases s <;> cases s' <;> rfl

theorem output_setSource (c : Capture) (s : OutputStream) (src : Source) :
    (c.setSource s src).output = c.output := by
  cases s <;> rfl

theorem source_keep (c : Capture) (taken : Option (List UInt8)) :
    (c.keep taken).source = c.source := by
  cases taken <;> rfl

theorem output_keep (c : Capture) (s : OutputStream) (taken : Option (List UInt8)) :
    (c.keep taken).output.toList =
      c.output.toList ++ (taken.map (Line.mk s)).toList.flatMap Line.text := by
  cases taken <;> simp [keep, pushLine, Text.trimmedEnd, Line.text]

theorem moved_of_move? (h : c.move? m = some c') : Moved c m c' := by
  cases m with
  | came p =>
    cases p with
    | wrote s bytes =>
      rw [move?] at h
      cases hs : c.source s with
      | writing bs =>
        rw [hs] at h
        cases h
        exact .wrote hs bytes
      | ended bs => rw [hs] at h; cases h
      | closed => rw [hs] at h; cases h
    | ended s =>
      rw [move?] at h
      cases hs : c.source s with
      | writing bs =>
        rw [hs] at h
        cases h
        exact .ended hs
      | ended bs => rw [hs] at h; cases h
      | closed => rw [hs] at h; cases h
  | took s =>
    obtain ⟨⟨taken, src⟩, hnext, rfl⟩ := Option.map_eq_some_iff.1 h
    exact .took hnext (Source.takes_of_next? hnext)

theorem run?_cons :
    c.run? (m :: ms) = some c'' ↔ ∃ c', c.move? m = some c' ∧ c'.run? ms = some c'' := by
  rw [run?, List.foldlM_cons]
  exact Option.bind_eq_some_iff

theorem run?_append (h : c.run? ms = some c') : c.run? (ms ++ ms') = c'.run? ms' := by
  rw [run?, List.foldlM_append, ← run?, h]
  rfl

theorem source_of_isDone (h : c.isDone) (s : OutputStream) : c.source s = .closed := by
  obtain ⟨hout, herr⟩ := (Bool.and_eq_true _ _).mp h
  cases s with
  | out => exact of_decide_eq_true hout
  | err => exact of_decide_eq_true herr

/-! ## The lines that are read -/

theorem linesRead_cons (h : c.move? m = some c') (ms : List Move) :
    c.linesRead (m :: ms) = (c.lineOf? m).toList ++ c'.linesRead ms := by
  rw [linesRead, h]
  rfl

theorem linesRead_append (h : c.run? ms = some c') (ms' : List Move) :
    c.linesRead (ms ++ ms') = c.linesRead ms ++ c'.linesRead ms' := by
  induction ms generalizing c with
  | nil =>
    cases h
    rfl
  | cons m ms ih =>
    obtain ⟨c₁, hmove, hrun⟩ := run?_cons.1 h
    rw [List.cons_append, linesRead_cons hmove, ih hrun, linesRead_cons hmove, List.append_assoc]

theorem lineOf?_took (h : (c.source s).next? = some (taken, src)) :
    c.lineOf? (.took s) = taken.map (Line.mk s) := by
  rw [lineOf?, h]
  rfl

theorem output_run (h : c.run? ms = some c') :
    c'.output.toList = c.output.toList ++ (c.linesRead ms).flatMap Line.text := by
  induction ms generalizing c with
  | nil =>
    cases h
    exact (List.append_nil _).symm
  | cons m ms ih =>
    obtain ⟨c₁, hmove, hrun⟩ := run?_cons.1 h
    rw [ih hrun, linesRead_cons hmove, List.flatMap_append, ← List.append_assoc]
    congr 1
    cases moved_of_move? hmove with
    | wrote hs bytes => simp [output_setSource, lineOf?]
    | ended hs => simp [output_setSource, lineOf?]
    | took hnext htakes => rw [output_keep _ _ _, output_setSource, lineOf?_took hnext]

/-! ## Turns deal the lines out -/

theorem isOver_moved (h : Moved c m c') (s : OutputStream) (hover : (c.source s).isOver) :
    (c'.source s).isOver ∧ bytesOn s (writes [m]) = [] := by
  cases h with
  | @wrote s' bs hs bytes =>
    have hne : s' ≠ s := by
      rintro rfl
      rw [hs] at hover
      cases hover
    rw [source_setSource, Function.update_of_ne hne.symm]
    exact ⟨hover, by simp [writes, Move.piece?, bytesOn, Piece.bytesOn, hne]⟩
  | @ended s' bs hs =>
    refine ⟨?_, rfl⟩
    rw [source_setSource, Function.update_apply]
    split_ifs
    · rfl
    · exact hover
  | @took s' taken src hnext htakes =>
    refine ⟨?_, rfl⟩
    rw [source_keep, source_setSource, Function.update_apply]
    split_ifs with hs
    · rw [htakes.isOver_eq, ← hs]
      exact hover
    · exact hover

theorem writes_cons (m : Move) (ms : List Move) : writes (m :: ms) = writes [m] ++ writes ms := by
  rw [writes, ← List.singleton_append, List.filterMap_append]
  rfl

theorem bytesOn_append (s : OutputStream) (ps qs : List Piece) :
    bytesOn s (ps ++ qs) = bytesOn s ps ++ bytesOn s qs :=
  List.flatMap_append

theorem bytesOn_wrote (s s' : OutputStream) (bytes : List UInt8) :
    bytesOn s [.wrote s' bytes] = if s' = s then bytes else [] :=
  List.flatMap_singleton _ _

theorem bytesOn_of_isOver (h : c.run? ms = some c') (hover : (c.source s).isOver) :
    bytesOn s (writes ms) = [] := by
  induction ms generalizing c with
  | nil => rfl
  | cons m ms ih =>
    obtain ⟨c₁, hmove, hrun⟩ := run?_cons.1 h
    obtain ⟨hover₁, hnil⟩ := isOver_moved (moved_of_move? hmove) s hover
    rw [writes_cons, bytesOn_append, hnil, ih hrun hover₁]
    rfl

/-- The lines that a run of moves is going to read on a stream. -/
def leftOn (c : Capture) (ms : List Move) (s : OutputStream) : List (List UInt8) :=
  (c.source s).left (bytesOn s (writes ms))

theorem leftOn_came (hmove : c.move? (.came p) = some c') (hrun : c'.run? ms = some c'') :
    c.leftOn (.came p :: ms) = c'.leftOn ms := by
  funext s
  rw [leftOn, leftOn, writes_cons, bytesOn_append]
  cases moved_of_move? hmove with
  | @wrote s' bs hs bytes =>
    rw [source_setSource, Function.update_apply]
    split_ifs with hss
    · subst hss
      simp [writes, Move.piece?, bytesOn, Piece.bytesOn, hs, Source.left]
    · simp [writes, Move.piece?, bytesOn, Piece.bytesOn, Ne.symm hss]
  | @ended s' bs hs =>
    rw [source_setSource, Function.update_apply]
    split_ifs with hss
    · subst hss
      -- What has ended is written to no more, so that the rest is the last line.
      have hnil : bytesOn s (writes ms) = [] :=
        bytesOn_of_isOver hrun (by rw [source_setSource, Function.update_self]; rfl)
      rw [hnil, hs]
      simp [writes, Move.piece?, bytesOn, Piece.bytesOn, Source.left]
    · rfl

theorem leftOn_took (h : Takes (c.source s) taken src) (ms : List Move) :
    c.leftOn (.took s :: ms) s = taken.toList ++ ((c.setSource s src).keep taken).leftOn ms s ∧
      Function.update (c.leftOn (.took s :: ms)) s (((c.setSource s src).keep taken).leftOn ms s) =
        ((c.setSource s src).keep taken).leftOn ms := by
  have hsource : ((c.setSource s src).keep taken).source = Function.update c.source s src := by
    rw [source_keep, source_setSource]
  refine ⟨?_, ?_⟩
  · rw [leftOn, leftOn, hsource, Function.update_self]
    exact h.left_eq _
  · funext s'
    rw [Function.update_apply]
    split_ifs with hs
    · rw [hs]
    · rw [leftOn, leftOn, hsource, Function.update_of_ne hs]
      rfl

theorem dealt_cons {left : OutputStream → List (List UInt8)} {more : List (List UInt8)}
    (h : left s = taken.toList ++ more) (hnone : taken = none → more = [])
    (ss : List OutputStream) : dealt left (s :: ss) =
      (taken.map (Line.mk s)).toList ++ dealt (Function.update left s more) ss := by
  cases taken with
  | none =>
    obtain rfl := hnone rfl
    have hleft : Function.update left s [] = left := by
      rw [Function.update_eq_self_iff]
      exact h.symm
    rw [dealt, hleft, h]
    rfl
  | some l =>
    rw [dealt, h]
    rfl

theorem linesOn_append (s : OutputStream) (ls ls' : List Line) :
    linesOn s (ls ++ ls') = linesOn s ls ++ linesOn s ls' := by
  rw [linesOn, List.filter_append, List.map_append]
  rfl

theorem linesOn_map_mk (s s' : OutputStream) (ls : List (List UInt8)) :
    linesOn s (ls.map (Line.mk s')) = if s' = s then ls else [] := by
  split_ifs with h <;> simp [linesOn, List.filter_map, Function.comp_def, h]

/-- **The turns deal out the lines**, and none is left. -/
theorem linesRead_eq_dealt (h : c.run? ms = some c') (hdone : c'.isDone) :
    c.linesRead ms = dealt (c.leftOn ms) (turns ms) ∧
      ∀ s, linesOn s (c.linesRead ms) = c.leftOn ms s := by
  -- What is left on a stream is told from all that is still going to be written to it, so that
  -- only turns change it.
  induction ms generalizing c with
  | nil =>
    cases h
    refine ⟨rfl, fun s => ?_⟩
    rw [leftOn, source_of_isDone hdone]
    rfl
  | cons m ms ih =>
    obtain ⟨c₁, hmove, hrun⟩ := run?_cons.1 h
    obtain ⟨hlines, hon⟩ := ih hrun
    rw [linesRead_cons hmove]
    cases m with
    | came p =>
      rw [leftOn_came hmove hrun]
      exact ⟨hlines, hon⟩
    | took s =>
      cases moved_of_move? hmove with
      | @took s taken src hnext htakes =>
        obtain ⟨hs, hothers⟩ := leftOn_took htakes ms
        have hnone : taken = none → ((c.setSource s src).keep taken).leftOn ms s = [] := by
          rintro rfl
          rw [leftOn, source_keep, source_setSource, Function.update_self, htakes.eq_closed]
          rfl
        rw [lineOf?_took hnext]
        refine ⟨?_, fun s' => ?_⟩
        · rw [show turns (.took s :: ms) = s :: turns ms from rfl, dealt_cons hs hnone, hothers,
            hlines]
        · have hmap : (taken.map (Line.mk s)).toList = taken.toList.map (Line.mk s) := by
            cases taken <;> rfl
          rw [linesOn_append, hon, hmap, linesOn_map_mk]
          split_ifs with hss
          · rw [← hss, hs]
          · rw [← hothers, Function.update_of_ne (Ne.symm hss)]
            rfl

end LintServer.Capture
