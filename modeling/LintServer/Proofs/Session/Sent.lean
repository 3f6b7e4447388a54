import LintServer.Proofs.Session.Reported

/-!
# The events of a session

The session numbers its documents, and whoever handles its events registers the number of each. An
event is sent as soon as the session changes, but it may be handled much later; all that counts is
that by then the events before it have been handled.

* `registered`: the editors that some events leave;
* `EditorEvent.Fits`: an event that is about a registered editor;
* **`Session.Sent`**: what holds of all events that a session has sent;
* `Sent.received`, `Sent.fire`, `Sent.close`: it stays so, also beyond the end of the session.
-/

namespace LintServer

/-- The editors that are registered after some events. -/
def registered (es : List EditorEvent) : Table EditorId Uri :=
  es.foldl EditorEvent.editorsAfter .empty

namespace EditorEvent

/-- An event fits the editors that are registered: one that is added is not among them, and of any
other one the document is known. -/
def Fits (editors : Table EditorId Uri) : EditorEvent → Prop
  | added e _ => editors.get? e = none
  | settled e d => editors.get? e = some d.uri
  | retagged e d => editors.get? e = some d.uri
  | destroyed e => ∃ u, editors.get? e = some u

/-- The editor that an event adds. -/
def added? : EditorEvent → Option EditorId
  | added e _ => some e
  | _ => none

end EditorEvent

theorem registered_append (es es' : List EditorEvent) :
    registered (es ++ es') = es'.foldl EditorEvent.editorsAfter (registered es) :=
  List.foldl_append

theorem added_of_registered {es : List EditorEvent} {e : EditorId} {u : Uri}
    (h : (registered es).get? e = some u) : ∃ d, .added e d ∈ es ∧ d.uri = u := by
  induction es using List.reverseRecOn with
  | nil => cases h
  | append_singleton es event ih =>
    -- An event leaves an editor as it is, or adds it now.
    have hold : (registered es).get? e = some u → ∃ d, .added e d ∈ es ++ [event] ∧ d.uri = u :=
      fun h => (ih h).imp fun d hd => ⟨List.mem_append_left _ hd.1, hd.2⟩
    rw [registered_append, List.foldl_cons, List.foldl_nil] at h
    cases event with
    | added e' d =>
      rw [EditorEvent.editorsAfter, Table.get?_insert] at h
      split_ifs at h with he
      · exact ⟨d, List.mem_append_right _ (he ▸ List.mem_singleton_self _), Option.some.inj h⟩
      · exact hold h
    | destroyed e' =>
      rw [EditorEvent.editorsAfter, Table.get?_erase] at h
      split_ifs at h
      exact hold h
    | _ => exact hold h

namespace Session

/-- The numbers of the first editors. -/
def numbers (n : Nat) : List EditorId := (List.range n).map fun i => ⟨i + 1⟩

theorem numbers_succ (n : Nat) : numbers (n + 1) = numbers n ++ [⟨n + 1⟩] := by
  rw [numbers, List.range_succ, List.map_append]
  rfl

theorem nodup_numbers (n : Nat) : (numbers n).Nodup :=
  List.nodup_range.map fun _ _ h => Nat.succ.inj (EditorId.mk.inj h)

/-- What holds of all events that a session has sent, whether or not they have been handled. -/
structure Sent (s : Session) (es : List EditorEvent) : Prop where
  timed : s.Timed
  /-- Whoever has handled them all knows which editor shows which document. -/
  agree : ∀ e u, (registered es).get? e = some u ↔
    ∃ d, s.documents.get? u = some d ∧ d.editor = e
  /-- Each of them fits the editors that those before it leave. -/
  fits : ∀ before e after, es = before ++ e :: after → e.Fits (registered before)
  /-- Every editor has a number of its own. -/
  numbered : es.filterMap EditorEvent.added? = numbers s.editors

variable {s s' : Session} {es : List EditorEvent}

theorem sent_start (quiet : Nat) : (start quiet).Sent [] where
  timed := timed_start quiet
  agree := (reported_start quiet).editors
  fits _ _ _ h := absurd h.symm (List.append_ne_nil_of_right_ne_nil _ (List.cons_ne_nil _ _))
  numbered := rfl

/-! ## What is sent -/

theorem Timed.sends (h : s.Timed) {editors : Table EditorId Uri}
    (hagree : ∀ e u, editors.get? e = some u ↔ ∃ d, s.documents.get? u = some d ∧ d.editor = e)
    {r : Session × List Outcome} (hr : Received s r) :
    r.2.filterMap Outcome.event? = [] ∧ r.1.editors = s.editors ∨
      ∃ e, r.2.filterMap Outcome.event? = [e] ∧ e.Fits editors ∧
        numbers r.1.editors = numbers s.editors ++ e.added?.toList := by
  cases hr with
  | opened d =>
    unfold Session.openDocument
    split
    · rename_i old hold
      have hget : editors.get? old.editor = some d.uri := (hagree _ _).2 ⟨old, hold, rfl⟩
      refine .inr ⟨if old.tag = d.tag then .settled old.editor d else .retagged old.editor d, rfl,
        ?_, ?_⟩
      · split_ifs <;> exact hget
      · split_ifs <;> simp [EditorEvent.added?]
    · refine .inr ⟨_, rfl, ?_, numbers_succ s.editors⟩
      refine Option.eq_none_iff_forall_ne_some.2 fun u hu => ?_
      -- The numbers of open documents are not beyond the last one.
      obtain ⟨d', hd', he⟩ := (hagree _ u).1 hu
      have hle := h.editor_le u d' hd'
      rw [he] at hle
      exact absurd hle (Nat.not_succ_le_self _)
  | changed u texts =>
    unfold Session.changeDocument
    split
    · exact .inl ⟨rfl, stopTimer_editors s _⟩
    · exact .inl ⟨rfl, rfl⟩
  | closed u =>
    unfold Session.closeDocument
    split
    · rename_i old hold
      exact .inr ⟨_, rfl, ⟨u, (hagree _ _).2 ⟨old, hold, rfl⟩⟩, by simp [EditorEvent.added?]⟩
    · exact .inl ⟨rfl, rfl⟩
  | other shuttingDown outcomes hevents => exact .inl ⟨hevents, rfl⟩

namespace Sent

theorem reported (h : s.Sent es) :
    s.Reported ⟨registered es, fun u => (s.documents.get? u).map fun d => d.snapshot u⟩ where
  timed := h.timed
  editors := h.agree
  documents u _ hd _ := congrArg (Option.map fun d => d.snapshot u) hd

theorem snoc (h : s.Sent es) {v : View} {e : EditorEvent} (hr : s'.Reported v)
    (hv : v.editors = e.editorsAfter (registered es)) (hfits : e.Fits (registered es))
    (hnumbers : numbers s'.editors = numbers s.editors ++ e.added?.toList) : s'.Sent (es ++ [e]) where
  timed := hr.timed
  agree := by
    rw [registered_append, List.foldl_cons, List.foldl_nil, ← hv]
    exact hr.editors
  fits before e' after heq := by
    rcases List.append_eq_append_iff.1 heq with ⟨l, rfl, hl⟩ | ⟨l, rfl, hl⟩
    · cases l with
      | nil =>
        obtain ⟨rfl, _⟩ := List.cons.inj hl
        rwa [List.append_nil]
      | cons e'' l => simp at hl
    · cases l with
      | nil =>
        obtain ⟨rfl, _⟩ := List.cons.inj hl
        rwa [List.append_nil] at hfits
      | cons e'' l =>
        obtain ⟨rfl, _⟩ := List.cons.inj hl
        exact h.fits before _ l rfl
  numbered := by
    rw [List.filterMap_append, h.numbered, hnumbers]
    cases hadd : e.added? <;> simp [hadd]

theorem received (h : s.Sent es) {r : Session × List Outcome} (hr : Received s r) :
    r.1.Sent (es ++ r.2.filterMap Outcome.event?) := by
  have hreported := h.reported.received hr
  rcases h.timed.sends h.agree hr with ⟨hnone, hnumber⟩ | ⟨e, he, hfits, hnumbers⟩
  · rw [hnone] at hreported ⊢
    rw [List.append_nil]
    exact ⟨hreported.timed, hreported.editors, h.fits, by rw [hnumber]; exact h.numbered⟩
  · rw [he] at hreported ⊢
    exact h.snoc hreported rfl hfits hnumbers

theorem fire (h : s.Sent es) {e : EditorEvent} (hfire : s.fire? = some (s', e)) :
    s'.Sent (es ++ [e]) := by
  have hreported := h.reported.fire hfire
  obtain ⟨u, d, hd, rfl, rfl⟩ := h.timed.fire hfire
  refine h.snoc hreported rfl ((h.agree _ _).2 ⟨d, hd, rfl⟩) ?_
  rw [stopTimer_editors]
  exact (List.append_nil _).symm

theorem stopTimer (h : s.Sent es) (o : Option Nat) : (s.stopTimer o).Sent es where
  timed := h.timed.stopTimer o
  agree := by
    rw [stopTimer_documents]
    exact h.agree
  fits := h.fits
  numbered := by
    rw [stopTimer_editors]
    exact h.numbered

theorem close (h : s.Sent es) : s.close.Sent es :=
  close_keeps (P := fun s => s.Sent es) (fun _ o h => h.stopTimer o) h

theorem elapse (h : s.Sent es) (ms : Nat) : (s.elapse ms).Sent es :=
  ⟨h.timed.of_eq rfl rfl rfl rfl, h.agree, h.fits, h.numbered⟩

end Sent

end Session

end LintServer
