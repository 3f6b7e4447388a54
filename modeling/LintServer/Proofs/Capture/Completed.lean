import LintServer.Proofs.Capture.Turns

/-!
# Lines as they are completed

A line is completed by its line end, or by the end of its stream. No reader takes it before. Readers
that keep up take the lines in the order in which they are completed; there always can be such
readers, and all can come to the end when everything has been written.

* `Whole`, `completed`: everything that is written to both streams, and the lines of it in order;
* `keepsUp`, `ofPieces`: readers that take at once what there is;
* `Taken`, **`linesOn_linesRead_prefix`**: no reader takes what has not been completed;
* `Kept`, **`linesRead_eq_completed`**: readers that keep up;
* **`exists_run_isDone`**, **`exists_run_ofPieces`**: readers can come to the end, and keep up.
-/

namespace LintServer.Capture

open Source (lineEnd endedLines unended Divided Takes)

/-! ## Everything that is written -/

/-- Nothing is written to a stream after its end. -/
def Sealed (ps : List Piece) : Prop := ps.Pairwise fun p q => p ≠ .ended q.stream

instance : DecidablePred Sealed := fun _ => inferInstanceAs (Decidable (List.Pairwise _ _))

/-- Both streams end, and nothing is written to them afterwards. -/
structure Whole (ps : List Piece) : Prop where
  after : Sealed ps
  ends : ∀ s, .ended s ∈ ps

/-- The lines that a piece completes behind others. -/
def completes (before : List Piece) : Piece → List Line
  | .wrote s bytes => (endedLines (unended (bytesOn s before) ++ bytes)).map (Line.mk s)
  | .ended s => ([unended (bytesOn s before)].filter (· ≠ [])).map (Line.mk s)

/-- The lines in the order in which pieces complete them behind others. -/
def completedAfter (before : List Piece) : List Piece → List Line
  | [] => []
  | p :: ps => completes before p ++ completedAfter (before ++ [p]) ps

/-- The lines in the order in which pieces complete them. -/
def completed (ps : List Piece) : List Line := completedAfter [] ps

/-- Nothing can be taken at the moment. -/
def isIdle (c : Capture) : Bool := (c.take? .out).isNone && (c.take? .err).isNone

/-- The moves are possible, and whenever a piece comes, all that came before has been taken. -/
def keepsUp (c : Capture) : List Move → Bool
  | [] => true
  | .came p :: ms => c.isIdle && (c.move? (.came p)).any (keepsUp · ms)
  | .took s :: ms => (c.take? s).any (keepsUp · ms)

/-- What readers that take everything at once make of a piece. -/
def feed (c : Capture) : Piece → Capture
  | .wrote s bytes => c.write s bytes
  | .ended s => c.finish s

/-- What readers that take everything at once have captured of some pieces. -/
def ofPieces (ps : List Piece) : Capture := ps.foldl feed empty

variable {c c' c'' : Capture} {s s' : OutputStream} {src : Source} {bs : List UInt8}
  {taken : Option (List UInt8)} {p : Piece} {ps : List Piece} {m : Move} {ms ms' : List Move}

theorem next?_of_isIdle (h : c.isIdle) (s : OutputStream) : (c.source s).next? = none := by
  obtain ⟨hout, herr⟩ := (Bool.and_eq_true _ _).mp h
  cases s with
  | out => simpa [take?] using hout
  | err => simpa [take?] using herr

/-! ## What has been taken -/

theorem completedAfter_concat (before ps : List Piece) (p : Piece) :
    completedAfter before (ps ++ [p]) =
      completedAfter before ps ++ completes (before ++ ps) p := by
  induction ps generalizing before with
  | nil => simp [completedAfter]
  | cons q ps ih => simp [completedAfter, ih]

theorem completed_concat (ps : List Piece) (p : Piece) :
    completed (ps ++ [p]) = completed ps ++ completes ps p :=
  completedAfter_concat [] ps p

/-- Some lines have been read of pieces that have come. On each stream the others that have been
completed are waiting. -/
structure Taken (c : Capture) (read : List Line) (ps : List Piece) : Prop where
  rest : ∀ s bs, c.source s = .writing bs → unended bs = unended (bytesOn s ps)
  on : ∀ s, linesOn s read ++ (c.source s).ready = linesOn s (completed ps)

namespace Taken

variable {read : List Line}

theorem came (h : Taken c read ps) (hmoved : Moved c (.came p) c') : Taken c' read (ps ++ [p]) := by
  cases hmoved with
  | @wrote s bs hs bytes =>
    refine ⟨fun s' bs' hs' => ?_, fun s' => ?_⟩
    · rw [bytesOn_append, bytesOn_wrote]
      rw [source_setSource, Function.update_apply] at hs'
      split_ifs at hs' with hss
      · cases hs'
        rw [hss, if_pos rfl, Source.unended_append, Source.unended_append (bytesOn s ps),
          h.rest s bs hs]
      · rw [if_neg (Ne.symm hss), List.append_nil]
        exact h.rest s' bs' hs'
    · rw [source_setSource, completed_concat, linesOn_append, ← h.on s', completes, linesOn_map_mk,
        ← h.rest s bs hs, List.append_assoc]
      by_cases hss : s' = s
      · subst hss
        rw [Function.update_self, if_pos rfl, hs]
        exact congrArg _ (Source.endedLines_append bs bytes)
      · rw [Function.update_of_ne hss, if_neg (Ne.symm hss), List.append_nil]
  | @ended s bs hs =>
    refine ⟨fun s' bs' hs' => ?_, fun s' => ?_⟩
    · rw [bytesOn_append]
      rw [source_setSource, Function.update_apply] at hs'
      split_ifs at hs' with hss
      exact (h.rest s' bs' hs').trans (congrArg unended (List.append_nil _).symm)
    · rw [source_setSource, completed_concat, linesOn_append, ← h.on s', completes, linesOn_map_mk,
        ← h.rest s bs hs, List.append_assoc]
      by_cases hss : s' = s
      · subst hss
        rw [Function.update_self, if_pos rfl, hs]
        rfl
      · rw [Function.update_of_ne hss, if_neg (Ne.symm hss), List.append_nil]

theorem took (h : Taken c read ps) (hmoved : Moved c (.took s) c') :
    Taken c' (read ++ (c.lineOf? (.took s)).toList) ps := by
  cases hmoved with
  | @took s taken src hnext htakes =>
    have hsource : ((c.setSource s src).keep taken).source = Function.update c.source s src := by
      rw [source_keep, source_setSource]
    have hmap : (taken.map (Line.mk s)).toList = taken.toList.map (Line.mk s) := by
      cases taken <;> rfl
    refine ⟨fun s' bs hs' => ?_, fun s' => ?_⟩
    · rw [hsource, Function.update_apply] at hs'
      split_ifs at hs' with hss
      · subst hss
        obtain ⟨bs', hbs', hrest⟩ := (hs' ▸ htakes).eq_writing
        rw [hrest, h.rest s' bs' hbs']
      · exact h.rest s' bs hs'
    · rw [hsource, lineOf?_took hnext, hmap, linesOn_append, linesOn_map_mk, ← h.on s',
        List.append_assoc]
      by_cases hss : s' = s
      · subst hss
        rw [Function.update_self, if_pos rfl, htakes.ready_eq]
      · rw [Function.update_of_ne hss, if_neg (Ne.symm hss), List.nil_append]

theorem run (h : Taken c read ps) (hrun : c.run? ms = some c') :
    Taken c' (read ++ c.linesRead ms) (ps ++ writes ms) := by
  induction ms generalizing c read ps with
  | nil =>
    cases hrun
    simpa [linesRead, writes] using h
  | cons m ms ih =>
    obtain ⟨c₁, hmove, hrun₁⟩ := run?_cons.1 hrun
    rw [linesRead_cons hmove, writes_cons, ← List.append_assoc, ← List.append_assoc]
    cases m with
    | came p =>
      have h₁ := h.came (moved_of_move? hmove)
      rw [← List.append_nil read] at h₁
      exact ih h₁ hrun₁
    | took s =>
      have h₁ := h.took (moved_of_move? hmove)
      rw [← List.append_nil ps] at h₁
      exact ih h₁ hrun₁

end Taken

theorem taken_empty : Taken empty [] [] where
  rest s bs h := by cases s <;> cases h <;> rfl
  on s := by cases s <;> rfl

/-- **No reader takes what has not been completed.** -/
theorem linesOn_linesRead_prefix (hrun : empty.run? ms = some c) (s : OutputStream) :
    linesOn s (empty.linesRead ms) <+: linesOn s (completed (writes ms)) :=
  ⟨_, (taken_empty.run hrun).on s⟩

/-! ## Readers that keep up -/

/-- Moreover, the lines that are waiting are all on one stream, and are the last ones. -/
structure Kept (c : Capture) (read : List Line) (ps : List Piece) : Prop extends Taken c read ps where
  lines : ∃ s, (∀ s' ≠ s, (c.source s').ready = []) ∧
    read ++ (c.source s).ready.map (Line.mk s) = completed ps

namespace Kept

variable {read : List Line}

theorem read_eq (h : Kept c read ps) (hready : ∀ s, (c.source s).ready = []) :
    read = completed ps := by
  obtain ⟨s, -, hlines⟩ := h.lines
  rw [← hlines, hready s, List.map_nil, List.append_nil]

theorem eq_unended (h : Kept c read ps) (hs : c.source s = .writing bs)
    (hnext : (c.source s).next? = none) : lineEnd ∉ bs ∧ unended (bytesOn s ps) = bs := by
  obtain hclosed | ⟨bs', hbs', hnot⟩ := Source.waits_of_next? hnext
  · rw [hs] at hclosed
    cases hclosed
  · rw [hs] at hbs'
    cases hbs'
    exact ⟨hnot, by rw [← h.rest s bs hs, (Divided.of_not_mem hnot).unended_eq]⟩

theorem came (h : Kept c read ps) (hidle : c.isIdle) (hmoved : Moved c (.came p) c') :
    Kept c' read (ps ++ [p]) := by
  have hnext := next?_of_isIdle hidle
  -- Nothing is waiting, so the new lines are the only ones that can.
  have hready : ∀ s, (c.source s).ready = [] := fun s => Source.ready_eq_nil (hnext s)
  have hread : read = completed ps := h.read_eq hready
  refine ⟨h.toTaken.came hmoved, ?_⟩
  cases hmoved with
  | @wrote s bs hs bytes =>
    obtain ⟨-, hrest⟩ := h.eq_unended hs (hnext s)
    refine ⟨s, fun s' hne => ?_, ?_⟩
    · rw [source_setSource, Function.update_of_ne hne]
      exact hready s'
    · rw [source_setSource, Function.update_self, completed_concat, hread, completes, hrest]
      rfl
  | @ended s bs hs =>
    obtain ⟨hnot, hrest⟩ := h.eq_unended hs (hnext s)
    refine ⟨s, fun s' hne => ?_, ?_⟩
    · rw [source_setSource, Function.update_of_ne hne]
      exact hready s'
    · rw [source_setSource, Function.update_self, completed_concat, hread, completes, hrest,
        Source.ready, (Divided.of_not_mem hnot).linesOf_eq, List.nil_append]

theorem took (h : Kept c read ps) (hmoved : Moved c (.took s) c') :
    Kept c' (read ++ (c.lineOf? (.took s)).toList) ps := by
  refine ⟨h.toTaken.took hmoved, ?_⟩
  cases hmoved with
  | @took s taken src hnext htakes =>
    obtain ⟨t, hothers, hlines⟩ := h.lines
    have hready := htakes.ready_eq
    refine ⟨t, fun s' hne => ?_, ?_⟩
    · rw [source_keep, source_setSource, Function.update_apply]
      split_ifs with hss
      · rw [← hss, hothers s' hne] at hready
        exact (List.append_eq_nil_iff.1 hready.symm).2
      · exact hothers s' hne
    · rw [source_keep, source_setSource, lineOf?_took hnext, ← hlines, Function.update_apply]
      split_ifs with hss
      · subst hss
        rw [hready]
        cases taken <;> simp
      · rw [hothers s (Ne.symm hss)] at hready
        obtain ⟨htaken, -⟩ := List.append_eq_nil_iff.1 hready.symm
        cases taken with
        | none => simp
        | some l => cases htaken

theorem run (h : Kept c read ps) (hkeeps : c.keepsUp ms) (hrun : c.run? ms = some c') :
    Kept c' (read ++ c.linesRead ms) (ps ++ writes ms) := by
  induction ms generalizing c read ps with
  | nil =>
    cases hrun
    simpa [linesRead, writes] using h
  | cons m ms ih =>
    obtain ⟨c₁, hmove, hrun₁⟩ := run?_cons.1 hrun
    rw [linesRead_cons hmove, writes_cons, ← List.append_assoc, ← List.append_assoc]
    cases m with
    | came p =>
      rw [keepsUp, hmove] at hkeeps
      obtain ⟨hidle, hkeeps⟩ := (Bool.and_eq_true _ _).mp hkeeps
      have h₁ := h.came hidle (moved_of_move? hmove)
      rw [← List.append_nil read] at h₁
      exact ih h₁ hkeeps hrun₁
    | took s =>
      rw [keepsUp, ← move?, hmove] at hkeeps
      have h₁ := h.took (moved_of_move? hmove)
      rw [← List.append_nil ps] at h₁
      exact ih h₁ hkeeps hrun₁

end Kept

theorem kept_empty : Kept empty [] [] where
  toTaken := taken_empty
  lines := ⟨.out, fun s _ => by cases s <;> rfl, rfl⟩

/-- **Readers that keep up** take the lines in the order in which the pieces complete them. -/
theorem linesRead_eq_completed (hkeeps : empty.keepsUp ms) (hrun : empty.run? ms = some c)
    (hdone : c.isDone) : empty.linesRead ms = completed (writes ms) :=
  (kept_empty.run hkeeps hrun).read_eq fun s => by
    rw [source_of_isDone hdone]
    rfl

/-! ## Coming to the end -/

/-- So many turns of one reader lead from one state to another. -/
structure Reads (s : OutputStream) (n : Nat) (c c' : Capture) : Prop where
  run : c.run? ((List.replicate n s).map .took) = some c'
  keepsUp : ∀ ms, c.keepsUp ((List.replicate n s).map .took ++ ms) = c'.keepsUp ms
  other : ∀ s' ≠ s, c'.source s' = c.source s'
  isOver : (c'.source s).isOver = (c.source s).isOver

theorem Reads.zero (s : OutputStream) (c : Capture) : Reads s 0 c c :=
  ⟨rfl, fun _ => rfl, fun _ _ => rfl, rfl⟩

theorem Reads.succ {n : Nat} {c₁ : Capture} (htake : c.take? s = some c₁) (h : Reads s n c₁ c') :
    Reads s (n + 1) c c' := by
  obtain ⟨⟨taken, src⟩, hnext, rfl⟩ := Option.map_eq_some_iff.1 htake
  have hsource : ((c.setSource s src).keep taken).source = Function.update c.source s src := by
    rw [source_keep, source_setSource]
  refine ⟨run?_cons.2 ⟨_, htake, h.run⟩, fun ms => ?_, fun s' hne => ?_, ?_⟩
  · rw [List.replicate_succ, List.map_cons, List.cons_append, Capture.keepsUp, htake]
    exact h.keepsUp ms
  · rw [h.other s' hne, hsource, Function.update_of_ne hne]
  · rw [h.isOver, hsource, Function.update_self, (Source.takes_of_next? hnext).isOver_eq]

theorem exists_reads_takeUpTo (s : OutputStream) (n : Nat) (c : Capture)
    (h : (c.source s).size ≤ n) :
    ∃ k, Reads s k c (takeUpTo s n c) ∧ ((takeUpTo s n c).source s).next? = none := by
  induction n generalizing c with
  | zero =>
    refine ⟨0, .zero s c, ?_⟩
    by_contra hsome
    obtain ⟨⟨taken, src⟩, hnext⟩ := Option.ne_none_iff_exists'.1 hsome
    rw [takeUpTo] at hnext
    have hlt := (Source.takes_of_next? hnext).size_lt
    omega
  | succ n ih =>
    rw [takeUpTo]
    cases htake : c.take? s with
    | none => exact ⟨0, .zero s c, Option.map_eq_none_iff.1 htake⟩
    | some c₁ =>
      obtain ⟨⟨taken, src⟩, hnext, rfl⟩ := Option.map_eq_some_iff.1 htake
      have hsize : (((c.setSource s src).keep taken).source s).size ≤ n := by
        have hlt := (Source.takes_of_next? hnext).size_lt
        rw [source_keep, source_setSource, Function.update_self]
        omega
      obtain ⟨k, hreads, hnone⟩ := ih _ hsize
      exact ⟨k + 1, .succ htake hreads, hnone⟩

/-- **A reader can take all there is**, and then it has nothing to take. -/
theorem exists_reads_takeAll (s : OutputStream) (c : Capture) :
    ∃ k, Reads s k c (takeAll s c) ∧ ((takeAll s c).source s).next? = none :=
  exists_reads_takeUpTo s _ c le_rfl

theorem isOver_run (h : c.run? ms = some c')
    (hover : (c.source s).isOver ∨ .ended s ∈ writes ms) : (c'.source s).isOver := by
  induction ms generalizing c with
  | nil =>
    cases h
    exact hover.resolve_right List.not_mem_nil
  | cons m ms ih =>
    obtain ⟨c₁, hmove, hrun⟩ := run?_cons.1 h
    refine ih hrun ?_
    rw [writes_cons, List.mem_append] at hover
    obtain hover | hmem | hmem := hover
    · exact .inl (isOver_moved (moved_of_move? hmove) s hover).1
    · cases moved_of_move? hmove with
      | wrote hs bytes => simp [writes, Move.piece?] at hmem
      | ended hs =>
        simp only [writes, Move.piece?, List.filterMap_cons, List.filterMap_nil,
          List.mem_singleton, Piece.ended.injEq] at hmem
        subst hmem
        rw [source_setSource, Function.update_self]
        exact .inl rfl
      | took hnext htakes => simp [writes, Move.piece?] at hmem
    · exact .inr hmem

theorem isDone_of_forall (h : ∀ s, c.source s = .closed) : c.isDone := by
  have hout : c.out = .closed := h .out
  have herr : c.err = .closed := h .err
  simp [isDone, hout, herr]

/-- **Readers can always come to the end** when everything has been written. -/
theorem exists_run_isDone (hover : ∀ s, (c.source s).isOver) :
    ∃ (ss : List OutputStream) (c' : Capture), c.run? (ss.map .took) = some c' ∧ c'.isDone := by
  obtain ⟨k, hout, hnone⟩ := exists_reads_takeAll .out c
  obtain ⟨k', herr, hnone'⟩ := exists_reads_takeAll .err (takeAll .out c)
  refine ⟨List.replicate k .out ++ List.replicate k' .err, takeAll .err (takeAll .out c), ?_,
    isDone_of_forall fun s => ?_⟩
  · rw [List.map_append, run?_append hout.run, herr.run]
  · cases s with
    | out =>
      rw [herr.other .out (by decide)]
      exact Source.eq_closed hnone (by rw [hout.isOver, hover])
    | err =>
      exact Source.eq_closed hnone' (by rw [herr.isOver, hout.other .err (by decide), hover])

theorem isIdle_of_forall (h : ∀ s, (c.source s).next? = none) : c.isIdle := by
  simp [isIdle, take?, h]

theorem exists_move?_came (h : (c.source p.stream).isOver = false) :
    ∃ src, c.move? (.came p) = some (c.setSource p.stream src) ∧
      (p ≠ .ended p.stream → src.isOver = false) := by
  obtain ⟨bs, hs⟩ : ∃ bs, c.source p.stream = .writing bs := by
    cases hs : c.source p.stream with
    | writing bs => exact ⟨bs, rfl⟩
    | ended bs => rw [hs] at h; cases h
    | closed => rw [hs] at h; cases h
  cases p with
  | wrote s bytes =>
    have hwrite : (c.source s).write? bytes = some (.writing (bs ++ bytes)) := by
      rw [show c.source s = .writing bs from hs]
      rfl
    exact ⟨_, congrArg (Option.map (c.setSource s)) hwrite, fun _ => rfl⟩
  | ended s =>
    have hfinish : (c.source s).finish? = some (.ended bs) := by
      rw [show c.source s = .writing bs from hs]
      rfl
    exact ⟨_, congrArg (Option.map (c.setSource s)) hfinish, fun hne => absurd rfl hne⟩

theorem exists_reads_feed (hmove : c.move? (.came p) = some (c.setSource p.stream src)) :
    (∃ k, Reads p.stream k (c.setSource p.stream src) (c.feed p)) ∧
      ((c.feed p).source p.stream).next? = none ∧
      ((c.feed p).source p.stream).isOver = src.isOver ∧
      ∀ s ≠ p.stream, (c.feed p).source s = c.source s := by
  have hfeed : c.feed p = takeAll p.stream (c.setSource p.stream src) := by
    cases p <;> simp only [feed, write, finish, hmove] <;> rfl
  obtain ⟨k, hreads, hnone⟩ := exists_reads_takeAll p.stream (c.setSource p.stream src)
  rw [hfeed]
  refine ⟨⟨k, hreads⟩, hnone, ?_, fun s hne => ?_⟩
  · rw [hreads.isOver, source_setSource, Function.update_self]
  · rw [hreads.other s hne, source_setSource, Function.update_of_ne hne]

theorem writes_append (ms ms' : List Move) : writes (ms ++ ms') = writes ms ++ writes ms' :=
  List.filterMap_append

theorem writes_took (ss : List OutputStream) : writes (ss.map .took) = [] := by
  rw [writes, List.filterMap_map]
  exact List.filterMap_none ss

/-- Readers that take everything at once keep up. -/
theorem exists_run_feed (hidle : c.isIdle) (hsealed : Sealed ps)
    (hopen : ∀ p ∈ ps, (c.source p.stream).isOver = false) :
    ∃ ms, writes ms = ps ∧ c.keepsUp ms ∧ c.run? ms = some (ps.foldl feed c) ∧
      (ps.foldl feed c).isIdle := by
  induction ps generalizing c with
  | nil => exact ⟨[], rfl, rfl, rfl, hidle⟩
  | cons p ps ih =>
    obtain ⟨hafter, hsealed⟩ := List.pairwise_cons.1 hsealed
    obtain ⟨hp, hopen⟩ := List.forall_mem_cons.1 hopen
    obtain ⟨src, hmove, hsrc⟩ := exists_move?_came hp
    obtain ⟨⟨k, hreads⟩, hnone, hover, hother⟩ := exists_reads_feed hmove
    have hidle' : (c.feed p).isIdle := isIdle_of_forall fun s => by
      by_cases hs : s = p.stream
      · rw [hs, hnone]
      · rw [hother s hs, next?_of_isIdle hidle]
    have hopen' : ∀ q ∈ ps, ((c.feed p).source q.stream).isOver = false := by
      intro q hq
      by_cases hs : q.stream = p.stream
      · rw [hs, hover]
        exact hsrc fun hended => hafter q hq (hs ▸ hended)
      · rw [hother _ hs, hopen q hq]
    obtain ⟨ms, hwrites, hkeeps, hrun, hidle''⟩ := ih hidle' hsealed hopen'
    refine ⟨.came p :: ((List.replicate k p.stream).map .took ++ ms), ?_, ?_, ?_, hidle''⟩
    · rw [writes_cons, writes_append, writes_took, hwrites]
      rfl
    · rw [keepsUp, hmove, hidle]
      exact (hreads.keepsUp ms).trans hkeeps
    · exact run?_cons.2 ⟨_, hmove, (run?_append hreads.run).trans hrun⟩

/-- **What is written can be read at once**, up to the end. -/
theorem exists_run_ofPieces (h : Whole ps) :
    ∃ ms, writes ms = ps ∧ empty.keepsUp ms ∧ empty.run? ms = some (ofPieces ps) ∧
      (ofPieces ps).isDone := by
  have hopen : ∀ p ∈ ps, (empty.source p.stream).isOver = false := fun p _ => by
    cases p.stream <;> rfl
  obtain ⟨ms, hwrites, hkeeps, hrun, hidle⟩ := exists_run_feed rfl h.after hopen
  refine ⟨ms, hwrites, hkeeps, hrun, isDone_of_forall fun s => ?_⟩
  exact Source.eq_closed (next?_of_isIdle hidle s) (isOver_run hrun (.inr (hwrites ▸ h.ends s)))

end LintServer.Capture
