import LintServer.Proofs.Linter.Operations
import LintServer.Proofs.Workspace.Closing
import LintServer.Proofs.Workspace.Hearsay

/-!
# Shared documents

Several editors may show one document, and an editor that is added again shows another one. Which
editors show a document is told by the last event of each that has opened or closed it. Only the
closing of the last one touches the issues of the document and the runs on it.

* `shownBy`, `Closes`: what a history of events says of an editor, and of the closing of a document;
* `mark?_eq_removed_iff`: the workspace knows what the history says;
* `Outdates`: what makes a run worthless;
* `isStale_run`: the fate of a run that is under way;
* **`removed_with_last_editor`**: issues and runs of shared documents.
-/

namespace LintServer

/-! ## Histories of events -/

namespace EditorEvent

/-- The editor that an event opens or closes. -/
def editor? : EditorEvent → Option EditorId
  | added e _ => some e
  | destroyed e => some e
  | _ => none

/-- The document that an editor is opened on. -/
def opened? : EditorEvent → Option Uri
  | added _ d => some d.uri
  | _ => none

end EditorEvent

/-- The document that an editor shows, by the last event that has opened or closed it. -/
def shownBy (evs : List EditorEvent) (e : EditorId) : Option Uri :=
  (evs.filter (·.editor? = some e)).getLast?.bind EditorEvent.opened?

/-- An event closes the last editor that shows a document. -/
def Closes (evs : List EditorEvent) (ev : EditorEvent) (u : Uri) : Prop :=
  ∃ e, ev = .destroyed e ∧ shownBy evs e = some u ∧ ∀ e', e' ≠ e → shownBy evs e' ≠ some u

theorem shownBy_eq (evs : List EditorEvent) (e : EditorId) :
    (evs.foldl EditorEvent.editorsAfter .empty).get? e = shownBy evs e := by
  induction evs using List.reverseRecOn with
  | nil => rfl
  | append_singleton evs ev ih =>
    rw [List.foldl_append, shownBy, List.filter_append]
    cases ev with
    | added e' d =>
      by_cases he : e = e'
      · simp [EditorEvent.editorsAfter, EditorEvent.editor?, EditorEvent.opened?, he]
      · simp [EditorEvent.editorsAfter, EditorEvent.editor?, he, Ne.symm he, ih, shownBy]
    | destroyed e' =>
      by_cases he : e = e'
      · simp [EditorEvent.editorsAfter, EditorEvent.editor?, EditorEvent.opened?, he]
      · simp [EditorEvent.editorsAfter, EditorEvent.editor?, he, Ne.symm he, ih, shownBy]
    | settled e' d => simp [EditorEvent.editorsAfter, EditorEvent.editor?, ih, shownBy]
    | retagged e' d => simp [EditorEvent.editorsAfter, EditorEvent.editor?, ih, shownBy]

namespace Workspace

variable {w : Workspace} {m : Move} {ms before : List Move} {id : Nat} {t : Ticket} {u : Uri}

/-- The events among some moves. -/
def eventsIn (ms : List Move) : List EditorEvent := ms.filterMap Move.event?

/-- What a run has found is published with a move. -/
def Publishes (w : Workspace) (m : Move) (t : Ticket) : Prop :=
  (∃ id run, w.mark? m = some (.ended id t (.ok run))) ∧
    ∃ issues, .publish t.uri issues ∈ Effect.notices (w.move m).2

/-- A move makes an older run worthless: it closes the last editor of the document, or what a later
run on it has found is published. -/
def Outdates (w : Workspace) (before : List Move) (m : Move) (t : Ticket) : Prop :=
  (∃ ev, m = .event ev ∧ Closes (eventsIn before) ev t.uri) ∨
    ∃ t', t'.uri = t.uri ∧ t.number < t'.number ∧ (w.run before).Publishes m t'

theorem lastOn_iff (l : Linter) (ms : List Move) (e : EditorId) (u : Uri) :
    ((start l).run ms).LastOn e u ↔
      shownBy (eventsIn ms) e = some u ∧ ∀ e', e' ≠ e → shownBy (eventsIn ms) e' ≠ some u := by
  have hget : ∀ e', ((start l).run ms).editors.get? e' = shownBy (eventsIn ms) e' := fun e' => by
    rw [editors_run]
    exact shownBy_eq _ e'
  simp only [LastOn, hget]
  exact and_congr_right fun _ => forall_congr' fun e' => ⟨fun h hne he => hne (h he),
    fun h he => by_contra fun hne => h hne he⟩

/-- **The workspace knows what the history says**: a document is removed by the closing of the last
editor that shows it, and by nothing else. -/
theorem mark?_eq_removed_iff (l : Linter) (ms : List Move) (m : Move) (u : Uri) :
    ((start l).run ms).mark? m = some (.removed u) ↔
      ∃ ev, m = .event ev ∧ Closes (eventsIn ms) ev u := by
  constructor
  · intro h
    obtain ⟨e, rfl, hget, hothers⟩ := move_of_mark h
    have hlast : ((start l).run ms).LastOn e u :=
      ⟨hget, fun e' he' => by_contra fun hne => hothers e' hne he'⟩
    exact ⟨_, rfl, e, rfl, (lastOn_iff l ms e u).1 hlast⟩
  · rintro ⟨ev, rfl, e, rfl, hlast⟩
    rw [mark?, action?_destroyed ((lastOn_iff l ms e u).2 hlast)]
    rfl

theorem publishes_iff : w.Publishes m t ↔
    (∃ id run, w.mark? m = some (.ended id t (.ok run))) ∧ w.linter.publisher.isStale t = false := by
  refine and_congr_right ?_
  rintro ⟨id, run, hm⟩
  have hc := change_move w m
  rw [hm] at hc
  generalize Effect.notices (w.move m).2 = ns at hc
  cases hc with
  | completed id u text t run hget hattempts hpublisher hnext =>
    cases hs : w.linter.publisher.isStale t with
    | true => simp [Publisher.complete_of_stale hs]
    | false => simp [Publisher.complete_of_fresh hs]

/-! ## The fate of a run -/

theorem isStale_move {l : Linter} (hl : l.Orderly) (before : List Move) (m : Move)
    (ht : t ∈ ((start l).run before).linter.tickets)
    (ht' : t ∈ (((start l).run before).move m).1.linter.tickets) :
    (((start l).run before).move m).1.linter.publisher.isStale t = true ↔
      ((start l).run before).linter.publisher.isStale t = true ∨
        (start l).Outdates before m t := by
  rw [Linter.isStale_change (orderly_run hl before) (change_move _ m) ht ht',
    mark?_eq_removed_iff, Outdates]
  refine or_congr_right (or_congr_right ?_)
  constructor
  · rintro (⟨findings, hm⟩ | ⟨id, t', run, hm, hs, hu, hlt⟩)
    · exact (move_of_mark hm).elim
    · exact ⟨t', hu, hlt, publishes_iff.2 ⟨⟨id, run, hm⟩, hs⟩⟩
  · rintro ⟨t', hu, hlt, hpublishes⟩
    obtain ⟨⟨id, run, hm⟩, hs⟩ := publishes_iff.1 hpublishes
    exact .inr ⟨id, t', run, hm, hs, hu, hlt⟩

theorem issued_le_run (w : Workspace) (ms : List Move) :
    w.linter.publisher.issued ≤ (w.run ms).linter.publisher.issued := by
  induction ms using List.reverseRecOn with
  | nil => exact Nat.le_refl _
  | append_singleton ms m ih =>
    rw [run_concat]
    exact ih.trans (Linter.issued_le_change (change_move _ m))

theorem number_le_run {text : String} {m : Move}
    (hstarted : (w.run before).mark? m = some (.started id t text)) (ms : List Move) :
    t.number ≤ (w.run (before ++ m :: ms)).linter.publisher.issued := by
  have hc := change_move (w.run before) m
  rw [hstarted] at hc
  obtain ⟨_, ht, hpublisher⟩ := hc.started_ticket
  have hissued : t.number = ((w.run before).move m).1.linter.publisher.issued := by
    rw [hpublisher, ht]
    rfl
  rw [hissued, run_append]
  exact issued_le_run _ ms

/-- **The fate of a run.** As long as it is under way, it is worthless exactly if something has
outdated it since it has started. -/
theorem isStale_run {l : Linter} (hl : l.Orderly) {text : String} {m : Move}
    (hstarted : ((start l).run before).mark? m = some (.started id t text)) (during : List Move)
    (ht : t ∈ ((start l).run (before ++ m :: during)).linter.tickets) :
    ((start l).run (before ++ m :: during)).linter.publisher.isStale t = true ↔
      ∃ ms m' ms', during = ms ++ m' :: ms' ∧ (start l).Outdates (before ++ m :: ms) m' t := by
  have hc := change_move ((start l).run before) m
  rw [hstarted] at hc
  induction during using List.reverseRecOn with
  | nil =>
    rw [run_concat, Linter.isStale_of_started (orderly_run hl before) hc]
    simp
  | append_singleton ms m' ih =>
    rw [← List.cons_append, ← List.append_assoc, run_concat] at ht ⊢
    -- Its number is not issued again, so the run has been under way before this move.
    have hheld := Linter.mem_tickets_of_change (change_move _ m') (number_le_run hstarted ms) ht
    refine (isStale_move hl _ m' hheld ht).trans ((or_congr_left (ih hheld)).trans ?_)
    exact (Publisher.exists_split_concat_iff
      (P := fun ms m' => (start l).Outdates (before ++ m :: ms) m' t)).symm

/-! ## Shared documents -/

/-- An event that does not close the last editor of a document leaves all issues and all runs as
they are. -/
theorem quiet_event (l : Linter) (ms : List Move) {ev : EditorEvent}
    (h : ∀ u, ¬ Closes (eventsIn ms) ev u) :
    (((start l).run ms).move (.event ev)).1.linter.publisher =
        ((start l).run ms).linter.publisher ∧
      Effect.notices (((start l).run ms).move (.event ev)).2 = [] := by
  refine Linter.quiet_change (change_move _ (.event ev)) ?_
  cases hm : ((start l).run ms).mark? (.event ev) with
  | none => rfl
  | some k =>
    have hk := move_of_mark hm
    cases k with
    | asked id d => rfl
    | started id t text => cases hk
    | ended id t outcome => cases hk
    | replaced u findings => exact hk.elim
    | removed u =>
      obtain ⟨_, hev, hcloses⟩ := (mark?_eq_removed_iff l ms _ u).1 hm
      cases hev
      exact absurd hcloses (h u)

theorem closing_event (l : Linter) (ms : List Move) {ev : EditorEvent}
    (h : Closes (eventsIn ms) ev u) :
    (((start l).run ms).move (.event ev)).1.linter.publisher =
        (((start l).run ms).linter.publisher.retract u).1 ∧
      Effect.notices (((start l).run ms).move (.event ev)).2 =
        (((start l).run ms).linter.publisher.retract u).2.2 := by
  have hc := change_move ((start l).run ms) (.event ev)
  rw [(mark?_eq_removed_iff l ms _ u).2 ⟨ev, rfl, h⟩] at hc
  generalize Effect.notices (((start l).run ms).move (.event ev)).2 = ns at hc ⊢
  cases hc with
  | removed u hattempts hpublisher hnext => exact ⟨hpublisher, rfl⟩

theorem ending_move {text : String} (run : Run)
    (hget : w.linter.attempts.get? id = some ⟨u, text, .running t⟩) :
    (w.move (.ended id (.ok run))).1.linter.publisher =
        (w.linter.publisher.complete t run.findings).1 ∧
      Effect.notices (w.move (.ended id (.ok run))).2 =
        (w.linter.publisher.complete t run.findings).2.2 := by
  simp only [move, act, Linter.step, Linter.settle, hget, Effect.notices_map_tell]
  exact ⟨rfl, trivial⟩

/-- **Issues and runs of shared documents.** The issues go with the last editor, and no others do. A
run counts unless that or a later run has outdated it. -/
theorem removed_with_last_editor (s : ValidatorSettings) (installed : Bool) :
    let w := start (Linter.start s installed).1
    (∀ ms ev,
      let l := (w.run ms).linter
      let r := (w.run ms).move (.event ev)
      (∀ u, Closes (eventsIn ms) ev u →
        r.1.linter.publisher.issues? u = none ∧
        Effect.notices r.2 = (if (l.publisher.issues? u).isSome then [.clear u] else []) ∧
        (∀ v, v ≠ u → r.1.linter.publisher.issues? v = l.publisher.issues? v) ∧
        ∀ t ∈ l.tickets, t.uri ≠ u →
          r.1.linter.publisher.isStale t = l.publisher.isStale t) ∧
      ((∀ u, ¬ Closes (eventsIn ms) ev u) →
        r.1.linter.publisher = l.publisher ∧ Effect.notices r.2 = [])) ∧
    ∀ before m id t text, (w.run before).mark? m = some (.started id t text) →
      ∀ during run, (w.run (before ++ m :: during)).linter.attempts.get? id =
          some ⟨t.uri, text, .running t⟩ →
        let l := (w.run (before ++ m :: during)).linter
        let r := (w.run (before ++ m :: during)).move (.ended id (.ok run))
        let issues := run.findings.map Issue.ofFinding
        let Outdated := ∃ ms m' ms', during = ms ++ m' :: ms' ∧
          w.Outdates (before ++ m :: ms) m' t
        (Outdated → Effect.notices r.2 = [] ∧
          r.1.linter.publisher.tracked = l.publisher.tracked) ∧
        (¬ Outdated → Effect.notices r.2 = [.publish t.uri issues] ∧
          r.1.linter.publisher.issues? t.uri = some issues) := by
  intro w
  have hl : (Linter.start s installed).1.Orderly := Linter.orderly_start s installed
  refine ⟨fun ms ev => ⟨fun u hcloses => ?_, quiet_event _ ms⟩,
    fun before m id t text hstarted during run hget => ?_⟩
  · obtain ⟨hpublisher, hnotices⟩ := closing_event _ ms hcloses
    rw [hpublisher, hnotices]
    refine ⟨?_, rfl, fun v hv => ?_, fun t ht hu => ?_⟩
    · rw [Publisher.issues?_retract, if_pos rfl]
    · rw [Publisher.issues?_retract, if_neg hv]
    · rw [(orderly_run hl ms).balanced.isStale_retract u ht, decide_eq_false hu, Bool.or_false]
  · have hstale := isStale_run hl hstarted during (Linter.Orderly.mem_tickets hget)
    obtain ⟨hpublisher, hnotices⟩ := ending_move run hget
    intro l r issues Outdated
    rw [hpublisher, hnotices]
    refine ⟨fun hout => ?_, fun hnot => ?_⟩
    · rw [Publisher.complete_of_stale (hstale.2 hout)]
      exact ⟨rfl, Publisher.retire_tracked _ _⟩
    · rw [Publisher.complete_of_fresh (Bool.eq_false_iff.2 fun hs => hnot (hstale.1 hs))]
      refine ⟨rfl, ?_⟩
      rw [Publisher.issues?_retire, Publisher.issues?_accept, if_pos rfl]

/-- Two runs on a document that two editors show. The later one counts when one editor is closed,
and does not when both are. -/
theorem later_run_counts_until_last_editor :
    let s : ValidatorSettings :=
      ⟨"jsonlint", "npx", "npm", [], ⟨"/tmp"⟩, "json", by decide, by decide, by decide, by decide⟩
    let a : Uri := ⟨"a"⟩
    let before : List Move := [.event (.added ⟨1⟩ ⟨a, "json", "x"⟩),
      .event (.added ⟨2⟩ ⟨a, "json", "x"⟩), .advance 0, .lookedUp true, .advance 0, .advance 0,
      .advance 1, .advance 1]
    let shared : List Move := [.ended 0 (.ok ⟨true, ""⟩), .event (.destroyed ⟨1⟩),
      .event (.destroyed ⟨7⟩)]
    let last : Move := .event (.destroyed ⟨2⟩)
    let told (ms : List Move) (m : Move) : List Notice :=
      Effect.notices (((start (Linter.start s true).1).run (before ++ .advance 1 :: ms)).move m).2
    told shared last = [.clear a] ∧
      told shared (.ended 1 (.ok ⟨true, ""⟩)) = [.publish a []] ∧
      told (shared ++ [last]) (.ended 1 (.ok ⟨true, ""⟩)) = [] := by
  intro s a before shared last told
  obtain ⟨hevents, hruns⟩ := removed_with_last_editor s true
  have hcleared : ((start (Linter.start s true).1).run before).linter.attempts.get? 1 =
      some ⟨a, "x", .cleared⟩ := by decide
  have hticket : (((start (Linter.start s true).1).run before).linter.publisher.begin a).2 =
      ⟨a, 2⟩ := by decide
  have hrunning : ∀ ms ∈ [shared, shared ++ [last]],
      ((start (Linter.start s true).1).run (before ++ .advance 1 :: ms)).linter.attempts.get? 1 =
        some ⟨a, "x", .running ⟨a, 2⟩⟩ := by decide
  have hkept : ((start (Linter.start s true).1).run
      (before ++ .advance 1 :: shared)).linter.publisher.isStale ⟨a, 2⟩ ≠ true := by decide
  have htracked : (((start (Linter.start s true).1).run
      (before ++ .advance 1 :: shared)).linter.publisher.issues? a).isSome = true := by decide
  have hremoved : ((start (Linter.start s true).1).run (before ++ .advance 1 :: shared)).mark? last =
      some (.removed a) := rfl
  have hstarted := hticket ▸ mark?_advance hcleared
  obtain ⟨_, hlast, hcloses⟩ := (mark?_eq_removed_iff _ _ _ _).1 hremoved
  have hend := hruns before _ 1 _ _ hstarted
  refine ⟨?_, ?_, ?_⟩
  · have hclear := ((hevents _ _).1 a hcloses).2.1
    rw [if_pos htracked, ← Move.event.inj hlast] at hclear
    exact hclear
  · refine ((hend shared _ (hrunning _ (by simp))).2 fun hout => hkept ?_).1
    exact (isStale_run (Linter.orderly_start s true) hstarted shared
      (Linter.Orderly.mem_tickets (hrunning _ (by simp)))).2 hout
  · exact ((hend (shared ++ [last]) _ (hrunning _ (by simp))).1
      ⟨shared, last, [], rfl, .inl ⟨_, hlast, hcloses⟩⟩).1

end Workspace

end LintServer
