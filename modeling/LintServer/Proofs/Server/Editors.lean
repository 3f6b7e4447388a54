import LintServer.Proofs.Server.Agreement
import LintServer.Proofs.Session.Sent

/-!
# Editors and documents

The session knows its documents by their URIs, the workspace knows them by the numbers of their
editors, and a queue and the timers stand between the two. Whatever steps a server makes, they agree
once the queue is empty, and no event ever surprises the workspace.

* `Server.sent`: the events that have been sent, those that wait included;
* `Turn.sent`, `sent_inTurn`: the session against all of them;
* **`editors_agree`**: the editors of the workspace are those of the open documents.
-/

namespace LintServer

open Workspace (Move)

namespace Server

variable {s : Server}

/-- The events that have been sent in some steps: those that have been handled, and those that
wait. -/
def sent (s : Server) (xs : List Step) : List EditorEvent :=
  (s.moves xs).filterMap Move.event? ++ (inTurn step s xs).1.events

theorem Turn.sent {m : Option Move} {r : Server × List Order} (ht : Turn s m r)
    {handled : List EditorEvent} (hs : s.session.Sent (handled ++ s.events)) :
    r.1.session.Sent (handled ++ m.toList.filterMap Move.event? ++ r.1.events) := by
  cases ht with
  | moved m events answers hevents hanswers =>
    have hm : [m].filterMap Move.event? = m.event?.toList := by cases m <;> rfl
    rw [absorb_session, absorb_events, Option.toList_some, hm, List.append_assoc]
    rwa [hevents] at hs
  | received input r hr hphase =>
    rw [follow_events, Option.toList_none, List.filterMap_nil, List.append_nil,
      ← List.append_assoc]
    -- Carrying out what has come of a frame may end the session, but sends nothing more.
    refine inTurn_keeps (s := { s with input, session := r.1 })
      (P := fun s' => s'.session.Sent (handled ++ s.events ++ r.2.filterMap Outcome.event?))
      (fun s' o h => ?_) (hs.received hr) _
    cases o with
    | answer id body =>
      simp only [carryOut]
      split <;> exact h
    | exit => exact h.close
    | _ => exact h
  | fired session e hfire =>
    rw [Option.toList_none, List.filterMap_nil, List.append_nil, ← List.append_assoc]
    exact hs.fire hfire
  | left r =>
    rw [Option.toList_none, List.filterMap_nil, List.append_nil]
    exact hs.close
  | aside s' orders ms hsession hevents hworkspace hanswers hphase horders =>
    rw [Option.toList_none, List.filterMap_nil, List.append_nil, hsession, hevents]
    exact hs.elapse ms

theorem sent_inTurn (hs : s.Answerable) (h : s.session.Sent s.events) (xs : List Step) :
    (inTurn step s xs).1.session.Sent (s.sent xs) := by
  unfold sent
  induction xs using List.reverseRecOn with
  | nil => exact h
  | append_singleton xs x ih =>
    rw [inTurn_concat, moves_concat, List.filterMap_append]
    exact (turn_step (answerable_inTurn hs xs) x).sent ih

/-- **Editors and documents agree** when no event waits. Each open document has been added under a
number of its own, and each event fits the editors that are registered by then. -/
theorem editors_agree (settings : Settings) (configPath : Option Path) (installed : Bool)
    {xs : List Step} {orders : List Order}
    (hrun : inTurn step (start settings configPath installed).1 xs = (s, orders)) :
    let es := (start settings configPath installed).1.sent xs
    (s.events = [] → ∀ e u, s.workspace.editors.get? e = some u ↔
        ∃ d, s.session.documents.get? u = some d ∧ d.editor = e) ∧
      (∀ u u' d d', s.session.documents.get? u = some d → s.session.documents.get? u' = some d' →
        d.editor = d'.editor → u = u') ∧
      (∀ u d, s.session.documents.get? u = some d →
        ∃ d', .added d.editor d' ∈ es ∧ d'.uri = u) ∧
      (es.filterMap EditorEvent.added?).Nodup ∧
      (∀ before e after, es = before ++ e :: after → e.Fits (registered before)) ∧
      ∀ e rest, s.events = e :: rest → e.Fits s.workspace.editors := by
  intro es
  have hs := answerable_start settings configPath installed
  have hstart : (start settings configPath installed).1.session.Sent
      (start settings configPath installed).1.events := by
    rw [session_start, events_start]
    exact Session.sent_start settings.quiet
  have hsent : (inTurn step (start settings configPath installed).1 xs).1.session.Sent es :=
    sent_inTurn hs hstart xs
  have hworkspace := workspace_inTurn hs xs
  have hes : es = _ ++ (inTurn step (start settings configPath installed).1 xs).1.events := rfl
  rw [hrun] at hsent hworkspace hes
  -- The workspace has handled all events but those that wait.
  have heditors : s.workspace.editors = registered
      (((start settings configPath installed).1.moves xs).filterMap Move.event?) := by
    rw [hworkspace, Workspace.editors_run, workspace_start]
    rfl
  refine ⟨fun hnone => ?_, hsent.timed.editor_inj, fun u d hd => ?_, ?_, hsent.fits,
    fun e rest he => ?_⟩
  · have hagree := hsent.agree
    rwa [hes, hnone, List.append_nil, ← heditors] at hagree
  · exact added_of_registered ((hsent.agree _ u).2 ⟨d, hd, rfl⟩)
  · rw [hsent.numbered]
    exact Session.nodup_numbers _
  · rw [heditors]
    exact hsent.fits _ e rest (hes.trans (congrArg _ he))

set_option maxRecDepth 4000 in
/-- A document is closed and opened again, under a new number. -/
theorem reopened_document_agrees :
    let settings : Settings :=
      ⟨⟨"jsonlint", "npx", "npm", [], ⟨"/tmp"⟩, "json", by decide, by decide, by decide, by decide⟩,
        300⟩
    let opening := "Content-Length:61\n\n\x7b\"method\":\"textDocument/didOpen\"," ++
      "\"params\":[[\"a\",\"json\",\"x\"]]\x7d"
    let closing := "Content-Length:51\n\n\x7b\"method\":\"textDocument/didClose\"," ++
      "\"params\":[[\"a\"]]\x7d"
    let xs : List Step := [.receive (Text.Utf8.encode opening.toList), .read,
      .receive (Text.Utf8.encode closing.toList), .read, .handle,
      .receive (Text.Utf8.encode opening.toList), .read, .handle, .handle]
    let s := (inTurn step (start settings none true).1 xs).1
    s.events = [] ∧ s.workspace.editors.get? ⟨2⟩ = some ⟨"a"⟩ ∧
      s.workspace.editors.get? ⟨1⟩ ≠ some ⟨"a"⟩ := by
  intro settings opening closing xs
  have hend : (inTurn step (start settings none true).1 xs).1.events = [] ∧
      (inTurn step (start settings none true).1 xs).1.session.documents.get? ⟨"a"⟩ =
        some ⟨⟨2⟩, "json", "x", none⟩ := by
    decide +kernel
  rcases hrun : inTurn step (start settings none true).1 xs with ⟨s, orders⟩
  rw [hrun] at hend
  obtain ⟨hevents, hopen⟩ := hend
  have hagree := (editors_agree settings none true hrun).1 hevents
  refine ⟨hevents, (hagree _ _).2 ⟨_, hopen, rfl⟩, fun hget => ?_⟩
  obtain ⟨d, hd, he⟩ := (hagree _ _).1 hget
  rw [hopen] at hd
  cases hd
  exact absurd he (by decide)

end Server

end LintServer
