import LintServer.Proofs.Session.Timers
import Mathlib.Data.List.Induction

/-!
# Runs of a session

Frames, the passing of time and the firing of timers may follow each other in any order. A frame is
an edit of one document or concerns none, and an edit stops the timer of its document and perhaps
sets a new one.

* `Edit`, `Edit.ofFrame?`, **`doesEdit_receive`**: the edit that a frame is;
* `Session.Move`, `Session.step`, `Session.run`: what may happen to a session;
* **`timers_edit`**: the timers after an edit;
* `timed_run`: timers belong to documents in every run;
* `Session.firings`, `elapsed`, `Punctual`: when timers fire.
-/

namespace LintServer

/-- The event that an outcome is. -/
def Outcome.event? : Outcome → Option EditorEvent
  | event e => some e
  | _ => none

/-! ## Edits -/

/-- What a frame does to the documents. -/
inductive Edit where
  | opened (d : Document)
  | changed (u : Uri) (texts : List String)
  | closed (u : Uri)
  deriving DecidableEq, Repr

namespace Edit

/-- The edit that a notification is. -/
def ofNote? (method : String) (params : Json) : Option Edit :=
  if method = "textDocument/didOpen" then (Incoming.openParams? params).map opened
  else if method = "textDocument/didChange" then
    (Incoming.changeParams? params).map fun p => changed p.1 p.2
  else if method = "textDocument/didClose" then (Incoming.closeParams? params).map closed
  else none

/-- The edit that a frame is. -/
def ofFrame? (frame : Json) : Option Edit :=
  match Incoming.ofFrame? frame with
  | some (.notification method params) => ofNote? method params
  | _ => none

/-- The document whose timer an edit stops. A list of changes that is empty stops none. -/
def target? : Edit → Option Uri
  | opened d => some d.uri
  | changed _ [] => none
  | changed u (_ :: _) => some u
  | closed u => some u

end Edit

namespace Session

variable {s : Session} {u : Uri}

/-- The session after an edit, and what comes of it. -/
def edit (s : Session) : Edit → Session × List Outcome
  | .opened d => s.openDocument d
  | .changed u texts => s.changeDocument u texts
  | .closed u => s.closeDocument u

/-- What a frame does that is an edit, or that is none. -/
def DoesEdit (s : Session) (e : Option Edit) (r : Session × List Outcome) : Prop :=
  match e with
  | some e => r = s.edit e
  | none => ∃ shuttingDown outcomes, outcomes.filterMap Outcome.event? = [] ∧
      r = ({ s with shuttingDown }, outcomes)

theorem doesEdit_withParams {α : Type} (s : Session) (method : String) (params : Option α)
    {act : α → Session × List Outcome} {toEdit : α → Edit} (hact : ∀ p, act p = s.edit (toEdit p)) :
    s.DoesEdit (params.map toEdit) (s.withParams method params act) := by
  cases params with
  | none => exact ⟨s.shuttingDown, _, rfl, rfl⟩
  | some p => exact hact p

theorem doesEdit_note (s : Session) (method : String) (params : Json) :
    s.DoesEdit (Edit.ofNote? method params) (s.note method params) := by
  unfold Edit.ofNote? note
  by_cases hexit : method = "exit"
  · subst hexit
    rw [if_pos rfl]
    refine ⟨s.shuttingDown, _, ?_, rfl⟩
    split_ifs <;> rfl
  · rw [if_neg hexit]
    split_ifs
    · exact doesEdit_withParams s _ _ fun _ => rfl
    · exact doesEdit_withParams s _ _ fun _ => rfl
    · exact doesEdit_withParams s _ _ fun _ => rfl
    · exact ⟨s.shuttingDown, _, rfl, rfl⟩

/-- **A frame is an edit**, or it leaves documents and timers alone. -/
theorem doesEdit_receive (s : Session) (frame : Json) :
    s.DoesEdit (Edit.ofFrame? frame) (s.receive frame) := by
  unfold Edit.ofFrame? receive
  cases Incoming.ofFrame? frame with
  | none => exact ⟨s.shuttingDown, _, rfl, rfl⟩
  | some incoming =>
    cases incoming with
    | request id method =>
      simp only [replyTo]
      split_ifs
      · exact ⟨s.shuttingDown, _, rfl, rfl⟩
      · exact ⟨s.shuttingDown, _, rfl, rfl⟩
      · exact ⟨true, _, rfl, rfl⟩
      · exact ⟨s.shuttingDown, _, rfl, rfl⟩
    | notification method params => exact doesEdit_note s method params
    | response id body => exact ⟨s.shuttingDown, _, rfl, rfl⟩

/-! ## Timers and edits -/

/-- The timer of an open document. -/
def timerAt? (s : Session) (u : Uri) : Option Nat := (s.documents.get? u).bind OpenDocument.timer

/-- The timer that an edit sets. -/
def armed? (s : Session) : Edit → Option Timer
  | .changed u texts =>
    match s.documents.get? u, texts.getLast? with
    | some d, some text =>
      some ⟨s.nextTimer, s.clock + s.quiet, .settled d.editor ⟨u, d.tag, text⟩⟩
    | _, _ => none
  | _ => none

theorem id_of_armed {e : Edit} {t : Timer} (h : s.armed? e = some t) : t.id = s.nextTimer := by
  cases e with
  | changed u texts =>
    simp only [armed?] at h
    split at h
    · cases h
      rfl
    · cases h
  | _ => cases h

theorem edit_of_no_target {e : Edit} (h : e.target? = none) : (s.edit e).1 = s := by
  cases e with
  | changed u texts =>
    cases texts with
    | nil =>
      simp only [edit, changeDocument, List.getLast?_nil]
      split
      · rename_i hlast
        cases hlast
      · rfl
    | cons text texts => cases h
  | _ => cases h

/-- **The timers after an edit.** That of the document is stopped, and a change sets a new one. -/
theorem timers_edit (s : Session) (e : Edit) : (s.edit e).1.timers =
    (s.stopTimer (e.target?.bind s.timerAt?)).timers ++ (s.armed? e).toList := by
  cases e with
  | opened d =>
    simp only [edit, openDocument, Edit.target?, armed?, Option.bind_some, timerAt?]
    cases hget : s.documents.get? d.uri <;> simp [stopTimer]
  | changed u texts =>
    cases texts with
    | nil =>
      rw [edit_of_no_target rfl, armed?, List.getLast?_nil]
      cases s.documents.get? u <;> exact (List.append_nil _).symm
    | cons text texts =>
      simp only [edit, changeDocument, Edit.target?, armed?, Option.bind_some, timerAt?,
        List.getLast?_cons]
      cases hget : s.documents.get? u with
      | none => exact (List.append_nil _).symm
      | some d => simp [setTimer, OpenDocument.snapshot]
  | closed u =>
    simp only [edit, closeDocument, Edit.target?, armed?, Option.bind_some, timerAt?]
    cases hget : s.documents.get? u <;> simp [stopTimer]

theorem get?_edit {e : Edit} {v : Uri} (he : e.target? = some v) (hne : u ≠ v) :
    (s.edit e).1.documents.get? u = s.documents.get? u := by
  cases e with
  | opened d =>
    cases he
    simp only [edit, openDocument]
    split <;> simp [hne]
  | changed v' texts =>
    cases texts with
    | nil => cases he
    | cons text texts =>
      cases he
      simp only [edit, changeDocument]
      split
      · simp [setTimer, hne]
      · rfl
  | closed v' =>
    cases he
    simp only [edit, closeDocument]
    split
    · simp [hne]
    · rfl

theorem nextTimer_edit (s : Session) (e : Edit) :
    (s.edit e).1.nextTimer = s.nextTimer + (s.armed? e).toList.length := by
  cases e with
  | opened d =>
    simp only [edit, openDocument, armed?]
    split <;> simp
  | changed u texts =>
    simp only [edit, changeDocument, armed?]
    cases s.documents.get? u <;> cases texts.getLast? <;> simp [setTimer]
  | closed u =>
    simp only [edit, closeDocument, armed?]
    split <;> simp

theorem clock_edit (s : Session) (e : Edit) :
    (s.edit e).1.clock = s.clock ∧ (s.edit e).1.quiet = s.quiet := by
  cases e with
  | opened d =>
    simp only [edit, openDocument]
    split <;> simp
  | changed u texts =>
    simp only [edit, changeDocument]
    split <;> simp [setTimer]
  | closed u =>
    simp only [edit, closeDocument]
    split <;> simp

/-! ## Moves -/

/-- What may happen to a session. -/
inductive Move where
  | receive (frame : Json)
  | elapse (ms : Nat)
  /-- The next timer that is due fires. -/
  | fire
  | close

/-- The session after a move. -/
def step (s : Session) : Move → Session
  | .receive frame => (s.receive frame).1
  | .elapse ms => s.elapse ms
  | .fire => (s.fire?.map Prod.fst).getD s
  | .close => s.close

/-- All that a move can be. -/
inductive Stepped (s : Session) : Move → Session → Prop
  | edited {frame : Json} (e : Edit) (he : Edit.ofFrame? frame = some e) :
      Stepped s (.receive frame) (s.edit e).1
  | other {frame : Json} (shuttingDown : Bool) (he : Edit.ofFrame? frame = none) :
      Stepped s (.receive frame) { s with shuttingDown }
  | elapsed (ms : Nat) : Stepped s (.elapse ms) (s.elapse ms)
  | fired (t : Timer) (ht : s.due? = some t) : Stepped s .fire (s.stopTimer (some t.id))
  | idle (ht : s.due? = none) : Stepped s .fire s
  | closed : Stepped s .close s.close

theorem stepped (s : Session) (m : Move) : Stepped s m (s.step m) := by
  cases m with
  | receive frame =>
    have h := doesEdit_receive s frame
    cases he : Edit.ofFrame? frame with
    | some e =>
      rw [he] at h
      change Stepped s _ (s.receive frame).1
      rw [show s.receive frame = s.edit e from h]
      exact .edited e he
    | none =>
      rw [he] at h
      obtain ⟨shuttingDown, outcomes, _, hs⟩ := h
      change Stepped s _ (s.receive frame).1
      rw [hs]
      exact .other shuttingDown he
  | elapse ms => exact .elapsed ms
  | fire =>
    simp only [step, fire?]
    cases ht : s.due? with
    | some t => exact .fired t ht
    | none => exact .idle ht
  | close => exact .closed

/-- How much time passes in a move. -/
def Move.ms : Move → Nat
  | elapse ms => ms
  | _ => 0

/-- The document whose timer a move stops, apart from the end of the session. -/
def Move.target? : Move → Option Uri
  | receive frame => (Edit.ofFrame? frame).bind Edit.target?
  | _ => none

/-- Whether a move stops the timer of a document. -/
def Move.stops (m : Move) (u : Uri) : Bool :=
  match m with
  | close => true
  | _ => m.target? = some u

section Step

variable {s' : Session} {m : Move}

theorem Stepped.clock (h : Stepped s m s') : s'.clock = s.clock + m.ms ∧ s'.quiet = s.quiet := by
  cases h with
  | edited e he => exact clock_edit s e
  | other shuttingDown he => exact ⟨rfl, rfl⟩
  | elapsed ms => exact ⟨rfl, rfl⟩
  | fired t ht => exact ⟨stopTimer_clock s _, stopTimer_quiet s _⟩
  | idle ht => exact ⟨rfl, rfl⟩
  | closed =>
    exact close_keeps (P := fun s' => s'.clock = s.clock ∧ s'.quiet = s.quiet)
      (fun _ _ h => by rwa [stopTimer_clock, stopTimer_quiet]) ⟨rfl, rfl⟩

theorem Stepped.timed (h : Stepped s m s') (hs : s.Timed) : s'.Timed := by
  cases h with
  | edited e he =>
    cases e with
    | opened d => exact hs.openDocument d
    | changed u texts => exact hs.changeDocument u texts
    | closed u => exact hs.closeDocument u
  | other shuttingDown he => exact hs.of_eq rfl rfl rfl rfl
  | elapsed ms => exact hs.of_eq rfl rfl rfl rfl
  | fired t ht => exact hs.stopTimer _
  | idle ht => exact hs
  | closed => exact close_keeps (P := Timed) (fun _ o h => h.stopTimer o) hs

theorem Stepped.mem_timers (h : Stepped s m s') {t : Timer} (ht : t ∈ s'.timers) :
    t ∈ s.timers ∨ t.id = s.nextTimer := by
  cases h with
  | edited e he =>
    rw [timers_edit] at ht
    rcases List.mem_append.1 ht with ht | ht
    · exact .inl ((mem_stopTimer_iff s _ t).1 ht).1
    · exact .inr (id_of_armed (Option.mem_toList.1 ht))
  | other shuttingDown he => exact .inl ht
  | elapsed ms => exact .inl ht
  | fired t' ht' => exact .inl ((mem_stopTimer_iff s _ t).1 ht).1
  | idle ht' => exact .inl ht
  | closed => exact .inl ((mem_close_iff s t).1 ht).1

theorem Stepped.nextTimer_le (h : Stepped s m s') : s.nextTimer ≤ s'.nextTimer := by
  cases h with
  | edited e he =>
    rw [nextTimer_edit]
    exact Nat.le_add_right _ _
  | fired t ht => exact Nat.le_of_eq (stopTimer_nextTimer s _).symm
  | closed =>
    exact close_keeps (P := fun s' => s.nextTimer ≤ s'.nextTimer)
      (fun _ _ h => by rwa [stopTimer_nextTimer]) (Nat.le_refl _)
  | _ => exact Nat.le_refl _

end Step

/-! ## Runs -/

/-- The session after some moves. -/
def run (s : Session) (ms : List Move) : Session := ms.foldl step s

/-- How much time passes in some moves. -/
def elapsed (ms : List Move) : Nat := (ms.map Move.ms).sum

/-- The timer that fires in a move, and when. -/
def fired? (s : Session) : Move → Option (Nat × Timer)
  | .fire => s.due?.map fun t => (s.clock, t)
  | _ => none

/-- The timers that fire in some moves, one after the other, and when. -/
def firings (s : Session) : List Move → List (Nat × Timer)
  | [] => []
  | m :: ms => (s.fired? m).toList ++ firings (s.step m) ms

/-- Time never passes beyond the moment when a timer is due. -/
def Punctual (s : Session) : List Move → Prop
  | [] => True
  | m :: ms => (m.ms = 0 ∨ ∀ t ∈ s.timers, s.clock + m.ms ≤ t.due) ∧ Punctual (s.step m) ms

instance decidablePunctual (s : Session) : (ms : List Move) → Decidable (s.Punctual ms)
  | [] => .isTrue trivial
  | m :: ms =>
    have := decidablePunctual (s.step m) ms
    inferInstanceAs (Decidable ((m.ms = 0 ∨ ∀ t ∈ s.timers, s.clock + m.ms ≤ t.due) ∧
      Punctual (s.step m) ms))

theorem run_cons (s : Session) (m : Move) (ms : List Move) : s.run (m :: ms) = (s.step m).run ms :=
  rfl

theorem elapsed_cons (m : Move) (ms : List Move) : elapsed (m :: ms) = m.ms + elapsed ms :=
  List.sum_cons

theorem run_concat (s : Session) (ms : List Move) (m : Move) : s.run (ms ++ [m]) = (s.run ms).step m :=
  List.foldl_append

theorem timed_run (h : s.Timed) (ms : List Move) : (s.run ms).Timed := by
  induction ms using List.reverseRecOn with
  | nil => exact h
  | append_singleton ms m ih =>
    rw [run_concat]
    exact (stepped _ m).timed ih

theorem quiet_run (s : Session) (ms : List Move) : (s.run ms).quiet = s.quiet := by
  induction ms using List.reverseRecOn with
  | nil => rfl
  | append_singleton ms m ih => rw [run_concat, (stepped _ m).clock.2, ih]

end Session

end LintServer
