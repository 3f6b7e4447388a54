import LintServer.Proofs.Session.Moves
import LintServer.Proofs.Workspace.Hearsay

/-!
# What a session has reported

The events of a session say which editor shows which document, and what each document is like once
it has come to rest. A document that waits for its timer has been reported as it was before.

* `Session.Received`: all that a frame can do to a session;
* **`Session.Reported`**: whoever has heard the events knows the documents;
* `Reported.received`, `Reported.fire`: it stays so.
-/

namespace LintServer

/-- What is known after some events. -/
def View.hear (v : View) (es : List EditorEvent) : View := es.foldl View.after v

theorem View.hear_append (v : View) (es es' : List EditorEvent) :
    v.hear (es ++ es') = (v.hear es).hear es' :=
  List.foldl_append

theorem View.documents_of_hear {v : View} {es : List EditorEvent} {u : Uri} {d : Document}
    (hes : ∀ e ∈ es, ∀ d, e.document? = some d → d.uri ≠ u) (h : (v.hear es).documents u = some d) :
    v.documents u = some d := by
  induction es generalizing v with
  | nil => exact h
  | cons e es ih =>
    have h' := ih (fun e' he' => hes e' (List.mem_cons_of_mem _ he')) (v := v.after e) h
    have he := hes e List.mem_cons_self
    simp only [View.after] at h'
    cases hact : e.action? v.editors with
    | none =>
      rw [hact] at h'
      exact h'
    | some a =>
      obtain ⟨d', hd', rfl⟩ | ⟨_, v', _, _, rfl⟩ := EditorEvent.action?_cases hact
      · simp only [hact, Option.elim, Action.onto] at h'
        rwa [if_neg (Ne.symm (he d' hd'))] at h'
      · simp only [hact, Option.elim, Action.onto] at h'
        split_ifs at h'
        exact h'

namespace Session

variable {s s' : Session} {v : View} {u : Uri} {d : OpenDocument}

/-! ## Frames -/

/-- All that a frame can do to a session. -/
inductive Received (s : Session) : Session × List Outcome → Prop
  | opened (d : Document) : Received s (s.openDocument d)
  | changed (u : Uri) (texts : List String) : Received s (s.changeDocument u texts)
  | closed (u : Uri) : Received s (s.closeDocument u)
  /-- No document is concerned. -/
  | other (shuttingDown : Bool) (outcomes : List Outcome)
      (hevents : outcomes.filterMap Outcome.event? = []) :
      Received s ({ s with shuttingDown }, outcomes)

theorem received_receive (s : Session) (frame : Json) : Received s (s.receive frame) := by
  have h := doesEdit_receive s frame
  cases he : Edit.ofFrame? frame with
  | none =>
    rw [he] at h
    obtain ⟨shuttingDown, outcomes, hevents, hs⟩ := h
    rw [hs]
    exact .other shuttingDown outcomes hevents
  | some e =>
    rw [he] at h
    rw [show s.receive frame = s.edit e from h]
    cases e with
    | opened d => exact .opened d
    | changed u texts => exact .changed u texts
    | closed u => exact .closed u

/-! ## Hearsay and documents -/

/-- **Whoever has heard the events knows the documents**, except for the last edits of those that
wait for their timers. -/
structure Reported (s : Session) (v : View) : Prop where
  timed : s.Timed
  editors : ∀ e u, v.editors.get? e = some u ↔ ∃ d, s.documents.get? u = some d ∧ d.editor = e
  documents : ∀ u d, s.documents.get? u = some d → ¬ s.Ticking d →
    v.documents u = some (d.snapshot u)

theorem reported_start (quiet : Nat) : (start quiet).Reported ⟨.empty, fun _ => none⟩ where
  timed := timed_start quiet
  editors e u := by
    refine ⟨fun h => ?_, fun ⟨d, h, _⟩ => ?_⟩
    · cases h
    · cases h
  documents u d h := by cases h

namespace Reported

theorem of_eq (h : s.Reported v) (hdocuments : s'.documents = s.documents)
    (htimers : s'.timers = s.timers) (heditors : s'.editors = s.editors)
    (hnext : s'.nextTimer = s.nextTimer) : s'.Reported v := by
  refine ⟨h.timed.of_eq hdocuments htimers heditors hnext, ?_, ?_⟩
  · rw [hdocuments]
    exact h.editors
  · unfold Ticking
    rw [hdocuments, htimers]
    exact h.documents

theorem others (h : s.Reported v) {old : OpenDocument} {u' : Uri}
    (hold : s.documents.get? u = some old) (hd : s.documents.get? u' = some d) (hne : u' ≠ u)
    (hrest : ¬ (s.stopTimer old.timer).Ticking d) : v.documents u' = some (d.snapshot u') :=
  h.documents u' d hd fun hticking => hrest (h.timed.ticking_of_stopTimer hold hd hne hticking)

theorem openDocument (h : s.Reported v) (d : Document) :
    (s.openDocument d).1.Reported (v.hear ((s.openDocument d).2.filterMap Outcome.event?)) := by
  have htimed := h.timed.openDocument d
  unfold Session.openDocument at htimed ⊢
  split at htimed
  · rename_i old hold
    -- The event is about the document as it is now, whether or not its syntax has changed.
    have hafter : v.hear ([Outcome.event (if old.tag = d.tag then .settled old.editor d
        else .retagged old.editor d)].filterMap Outcome.event?) =
        ⟨v.editors, fun u => if u = d.uri then some d else v.documents u⟩ := by
      split_ifs <;> rfl
    rw [hafter]
    refine ⟨htimed, fun e u => ?_, fun u d' hd' hrest => ?_⟩
    · simp only [h.editors, stopTimer_documents, Table.get?_insert]
      split_ifs with hu
      · simp [hu, hold]
      · exact Iff.rfl
    · simp only [stopTimer_documents, Table.get?_insert] at hd'
      split_ifs at hd' with hu
      · cases hd'
        rw [hu]
        exact if_pos rfl
      · exact (if_neg hu).trans (h.others hold hd' hu hrest)
  · rename_i hnone
    refine ⟨htimed, fun e u => ?_, fun u d' hd' hrest => ?_⟩
    · change (v.editors.insert ⟨s.editors + 1⟩ d.uri).get? e = some u ↔ _
      simp only [Table.get?_insert]
      split_ifs with he hu hu
      · simp [he, hu]
      · refine ⟨fun hd => absurd (Option.some.inj hd).symm hu, ?_⟩
        rintro ⟨d', hd', he'⟩
        have hle := h.timed.editor_le u d' hd'
        rw [he', he] at hle
        exact absurd hle (Nat.not_succ_le_self _)
      · rw [h.editors, hu, hnone]
        simp [Ne.symm he]
      · exact h.editors e u
    · change (if u = d.uri then some d else v.documents u) = _
      simp only [Table.get?_insert] at hd'
      split_ifs at hd' ⊢ with hu
      · cases hd'
        rw [hu]
        rfl
      · exact h.documents u d' hd' hrest

theorem changeDocument (h : s.Reported v) (u : Uri) (texts : List String) :
    (s.changeDocument u texts).1.Reported
      (v.hear ((s.changeDocument u texts).2.filterMap Outcome.event?)) := by
  have htimed := h.timed.changeDocument u texts
  unfold Session.changeDocument at htimed ⊢
  split at htimed
  · rename_i old text hold _
    refine ⟨htimed, fun e u' => ?_, fun u' d' hd' hrest => ?_⟩
    · change v.editors.get? e = some u' ↔ _
      simp only [h.editors, setTimer, stopTimer_documents, Table.get?_insert]
      split_ifs with hu
      · simp [hu, hold]
      · exact Iff.rfl
    · change v.documents u' = _
      simp only [setTimer, stopTimer_documents, Table.get?_insert] at hd'
      split_ifs at hd' with hu
      · -- The edited document waits for its new timer.
        cases hd'
        exact absurd ⟨_, List.mem_append_right _ List.mem_cons_self, rfl⟩ hrest
      · refine h.others hold hd' hu ?_
        rintro ⟨t, ht, hid⟩
        exact hrest ⟨t, List.mem_append_left _ ht, hid⟩
  · exact h

theorem closeDocument (h : s.Reported v) (u : Uri) :
    (s.closeDocument u).1.Reported (v.hear ((s.closeDocument u).2.filterMap Outcome.event?)) := by
  have htimed := h.timed.closeDocument u
  unfold Session.closeDocument at htimed ⊢
  split at htimed
  · rename_i old hold
    refine ⟨htimed, fun e u' => ?_, fun u' d' hd' hrest => ?_⟩
    · change (v.editors.erase old.editor).get? e = some u' ↔ _
      simp only [stopTimer_documents, Table.get?_erase]
      split_ifs with he hu hu
      · simp
      · refine ⟨fun hd => (by cases hd), ?_⟩
        rintro ⟨d', hd', he'⟩
        exact absurd (h.timed.editor_inj u' u d' old hd' hold (he'.trans he)) hu
      · rw [h.editors, hu]
        constructor
        · rintro ⟨d', hd', he'⟩
          rw [hold] at hd'
          cases hd'
          exact absurd he'.symm he
        · rintro ⟨d', hd', _⟩
          cases hd'
      · exact h.editors e u'
    · simp only [stopTimer_documents, Table.get?_erase] at hd'
      split_ifs at hd' with hu
      have hdoc := h.others hold hd' hu hrest
      change (((EditorEvent.destroyed old.editor).action? v.editors).elim v.documents
        fun a => a.onto v.documents) u' = _
      cases hact : (EditorEvent.destroyed old.editor).action? v.editors with
      | none => exact hdoc
      | some a =>
        obtain ⟨_, hd, _⟩ | ⟨_, v', he, hget, rfl⟩ := EditorEvent.action?_cases hact
        · cases hd
        cases he
        rw [(h.editors _ u).2 ⟨old, hold, rfl⟩] at hget
        cases hget
        exact (if_neg hu).trans hdoc
  · exact h

/-- **A frame**, and what is heard of it. -/
theorem received (h : s.Reported v) {r : Session × List Outcome} (hr : Received s r) :
    r.1.Reported (v.hear (r.2.filterMap Outcome.event?)) := by
  cases hr with
  | opened d => exact h.openDocument d
  | changed u texts => exact h.changeDocument u texts
  | closed u => exact h.closeDocument u
  | other shuttingDown outcomes hevents =>
    rw [hevents]
    exact h.of_eq rfl rfl rfl rfl

/-- **A timer**, and what is heard of it. -/
theorem fire (h : s.Reported v) {e : EditorEvent} (hfire : s.fire? = some (s', e)) :
    s'.Reported (v.after e) := by
  obtain ⟨u, d, hd, rfl, rfl⟩ := h.timed.fire hfire
  refine ⟨h.timed.stopTimer _, fun e u' => ?_, fun u' d' hd' hrest => ?_⟩
  · rw [stopTimer_documents]
    exact h.editors e u'
  · rw [stopTimer_documents] at hd'
    change (if u' = u then some (d.snapshot u) else v.documents u') = _
    split_ifs with hu
    · rw [hu, hd] at hd'
      cases hd'
      rw [hu]
    · exact h.others hd hd' hu hrest

theorem elapse (h : s.Reported v) (ms : Nat) : (s.elapse ms).Reported v := h.of_eq rfl rfl rfl rfl

end Reported

end Session

end LintServer
