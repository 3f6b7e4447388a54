import LintServer.Proofs.Publisher.Mirror
import LintServer.Proofs.Server.Moves
import LintServer.Proofs.Session.Debounce
import LintServer.Proofs.Table

/-!
# How much a server has left to do

Everything that waits counts for something: bytes, timers, events, answers, attempts and frames in
line. The weights are such that whatever is done leaves behind less than it takes away.

* `Stage.load`, `Action.load`, `Effect.load`, `Outcome.load`, `Phase.load`: the weights;
* **`Linter.load_step_lt`**, `load_advance_lt`, `Workspace.load_handle_lt`: attempts;
* `Session.load_receive`, `load_fire`: timers;
* `Server.load`, `load_absorb`, `load_follow`: the parts of a step.
-/

namespace LintServer

/-! ## How much is left to do -/

/-- How much an attempt may still do. -/
def Stage.load : Stage → Nat
  -- The attempt that waits no longer may show the notification.
  | fresh _ => 6
  | waiting => 5
  | cleared => 1
  | running _ => 0

/-- How much the linter may do about an action. -/
def Action.load : Action → Nat
  | check _ => 7
  | answered _ => 3
  | checkText .. | ended .. | publish .. | retract _ => 2
  | _ => 1

/-- How much is left to do about an effect. -/
def Effect.load : Effect → Nat
  | tell _ => 1
  | notify _ => 3
  | showConfig => 2
  | _ => 0

/-- How much is left to do about some effects. -/
def Effect.loadOf (es : List Effect) : Nat := (es.map Effect.load).sum

/-- How much is left to do about what has come of a message. -/
def Outcome.load : Outcome → Nat
  | reply _ => 1
  | event _ => 7
  | answer .. | exit => 3
  | log _ => 0

/-- How much is left to do about all that has come of a message. -/
def Outcome.loadOf (os : List Outcome) : Nat := (os.map Outcome.load).sum

/-- How much is left to do until the end. -/
def Phase.load : Phase → Nat
  | .reading => 4
  | .over _ => 3
  | .stopping _ => 1
  | .ended _ => 0

theorem Stage.load_le (s : Stage) : s.load ≤ 6 := by cases s <;> simp [load]

theorem Action.load_le (a : Action) : a.load ≤ 7 := by cases a <;> simp [load]

theorem Phase.load_le (p : Phase) : p.load ≤ 4 := by cases p <;> simp [load]

/-! ## Attempts -/

namespace Linter

variable {l : Linter} {id : Nat} {a : Attempt}

/-- How much the attempts may still do. -/
def load (l : Linter) : Nat := l.attempts.total fun _ a => a.stage.load

theorem load_setStage (hget : l.attempts.get? id = some a) (stage : Stage) :
    (l.setStage id a stage).load + a.stage.load = l.load + stage.load := by
  have h := l.attempts.total_insert (fun _ a => a.stage.load) id { a with stage }
  rwa [hget] at h

theorem load_dropAttempt (hget : l.attempts.get? id = some a) :
    (l.dropAttempt id).load + a.stage.load = l.load := by
  have h := l.attempts.total_erase (fun _ a => a.stage.load) id
  rwa [hget] at h

theorem load_addAttempt (l : Linter) (u : Uri) (text : String) (stage : Stage) :
    (l.addAttempt u text stage).load ≤ l.load + stage.load := by
  have h := l.attempts.total_insert (fun _ a => a.stage.load) l.next ⟨u, text, stage⟩
  exact Nat.le_of_add_right_le h.le

theorem mem_canAdvance_iff :
    id ∈ l.canAdvance ↔ ∃ a, l.attempts.get? id = some a ∧ l.canLeave a.stage = true := by
  simp only [canAdvance, List.mem_map, List.mem_filter, Prod.exists, exists_and_right,
    exists_eq_right, Table.mem_entries_iff]

theorem askOnce_attempts (l : Linter) : l.askOnce.1.attempts = l.attempts := by
  unfold askOnce
  split <;> rfl

theorem load_askOnce (l : Linter) : l.askOnce.1.load + Effect.loadOf l.askOnce.2 = l.load := by
  unfold askOnce
  split <;> rfl

theorem warnOnce_attempts (l : Linter) (found : Bool) :
    (l.warnOnce found).1.attempts = l.attempts := by
  unfold warnOnce
  split_ifs <;> rfl

theorem load_warnOnce (l : Linter) (found : Bool) :
    (l.warnOnce found).1.load + Effect.loadOf (l.warnOnce found).2 ≤ l.load + 3 := by
  unfold warnOnce
  split_ifs
  · exact Nat.le_refl _
  · exact Nat.le_add_right _ _

theorem load_advance_lt (h : id ∈ l.canAdvance) :
    (l.advance id).1.load + Effect.loadOf (l.advance id).2 < l.load := by
  obtain ⟨⟨u, text, stage⟩, hget, hleave⟩ := mem_canAdvance_iff.1 h
  cases stage with
  | fresh tag =>
    by_cases htag : tag = l.settings.tag
    · have hset := load_setStage (l := l.askOnce.1) (l.askOnce_attempts.symm ▸ hget) .waiting
      have hask := l.load_askOnce
      simp only [advance, hget, if_pos htag]
      simp only [Stage.load] at hset
      omega
    · have hdrop := load_dropAttempt hget
      simp only [advance, hget, if_neg htag]
      simp only [Stage.load] at hdrop
      have hnone : Effect.loadOf [] = 0 := rfl
      omega
  | waiting =>
    cases hlookup : l.lookup with
    | answered found =>
      have hset := load_setStage (l := (l.warnOnce found).1)
        ((l.warnOnce_attempts found).symm ▸ hget) .cleared
      have hwarn := l.load_warnOnce found
      simp only [advance, hget, hlookup]
      simp only [Stage.load] at hset
      omega
    | _ => simp [canLeave, hlookup] at hleave
  | cleared =>
    have hset := load_setStage (l := { l with publisher := (l.publisher.begin u).1 }) hget
      (.running (l.publisher.begin u).2)
    have hload : Linter.load { l with publisher := (l.publisher.begin u).1 } = l.load := rfl
    have heffects : Effect.loadOf [.validate id l.settings.command text] = 0 := rfl
    simp only [advance, hget, launch]
    simp only [Stage.load] at hset
    omega
  | running t => cases hleave

theorem advance_of_not_mem (h : id ∉ l.canAdvance) : l.advance id = (l, []) := by
  cases hget : l.attempts.get? id with
  | none => simp only [advance, hget]
  | some a =>
    have hleave : l.canLeave a.stage ≠ true := fun hc => h (mem_canAdvance_iff.2 ⟨a, hget, hc⟩)
    obtain ⟨u, text, stage⟩ := a
    cases stage with
    | fresh tag => exact absurd rfl hleave
    | waiting =>
      cases hlookup : l.lookup with
      | answered found => simp [canLeave, hlookup] at hleave
      | _ => simp only [advance, hget, hlookup]
    | cleared => exact absurd rfl hleave
    | running t => simp only [advance, hget]

theorem loadOf_notices (p : Publisher) (o : Publisher.Operation) :
    Effect.loadOf ((p.step o).2.2.map .tell) ≤ 1 := by
  rcases p.step_notices o with ⟨hnone, -⟩ | ⟨n, hn, -⟩
  · rw [hnone]
    exact Nat.zero_le 1
  · rw [hn]
    exact Nat.le_refl 1

theorem load_settle (l : Linter) (id : Nat) (outcome : Except RunError Run) :
    (l.settle id outcome).1.load + Effect.loadOf (l.settle id outcome).2 ≤ l.load + 1 := by
  unfold settle
  split
  · rename_i u text t hget
    cases outcome with
    | ok run =>
      have hdrop := load_dropAttempt
        (l := { l with publisher := (l.publisher.complete t run.findings).1 }) hget
      have hload : Linter.load { l with publisher := (l.publisher.complete t run.findings).1 } =
        l.load := rfl
      have hnotices := loadOf_notices l.publisher (.complete t run.findings)
      simp only [Publisher.step] at hnotices
      simp only
      omega
    | error e =>
      have hdrop := load_dropAttempt (l := { l with publisher := l.publisher.abandon t }) hget
      have hload : Linter.load { l with publisher := l.publisher.abandon t } = l.load := rfl
      have hlog : Effect.loadOf [.log (runWarning u e)] = 0 := rfl
      simp only
      omega
  · exact Nat.le_succ _

theorem load_takeAnswer (l : Linter) (choice : Except HostError (Option Nat)) :
    (l.takeAnswer choice).1.load + Effect.loadOf (l.takeAnswer choice).2 ≤ l.load + 2 := by
  unfold takeAnswer
  split_ifs
  · refine Nat.add_le_add_left (m := 2) ?_ l.load
    split
    · split_ifs
      · exact Nat.le_refl 2
      · exact Nat.zero_le 2
    · exact Nat.zero_le 2
    · exact Nat.zero_le 2
  · exact Nat.le_add_right _ _

theorem load_endInstall (l : Linter) (r : Except InstallError Unit) :
    (l.endInstall r).1.load + Effect.loadOf (l.endInstall r).2 = l.load := by
  unfold endInstall
  split_ifs
  · split <;> rfl
  · rfl

/-- **An action leaves less to do** than it found. -/
theorem load_step_lt (l : Linter) (x : Action) :
    (l.step x).1.load + Effect.loadOf (l.step x).2 < l.load + x.load := by
  cases x with
  | check d => exact Nat.lt_succ_of_le (l.load_addAttempt d.uri d.text (.fresh d.tag))
  | checkText u text => exact Nat.lt_succ_of_le (l.load_addAttempt u text .cleared)
  | advance id =>
    by_cases h : id ∈ l.canAdvance
    · exact Nat.lt_succ_of_lt (load_advance_lt h)
    · rw [show l.step (.advance id) = (l, []) from advance_of_not_mem h]
      exact Nat.lt_succ_self _
  | lookedUp found =>
    have hsame : (l.step (.lookedUp found)).1.load = l.load := by
      simp only [step]
      split_ifs <;> rfl
    rw [hsame]
    exact Nat.lt_succ_self _
  | ended id outcome => exact Nat.lt_succ_of_le (l.load_settle id outcome)
  | answered choice => exact Nat.lt_succ_of_le (l.load_takeAnswer choice)
  | configShown r => cases r <;> exact Nat.lt_succ_self _
  | installed r => exact Nat.lt_succ_of_le (l.load_endInstall r).le
  | publish u findings =>
    have h := loadOf_notices l.publisher (.publish u findings)
    exact Nat.lt_succ_of_le (Nat.add_le_add_left h _)
  | retract u =>
    have h := loadOf_notices l.publisher (.retract u)
    exact Nat.lt_succ_of_le (Nat.add_le_add_left h _)

end Linter

namespace Workspace

theorem load_act_lt (w : Workspace) (a : Action) :
    (w.act a).1.linter.load + Effect.loadOf (w.act a).2 < w.linter.load + a.load :=
  w.linter.load_step_lt a

/-- An event leads to one action at most. -/
theorem load_handle_lt (w : Workspace) (e : EditorEvent) :
    (w.handle e).1.linter.load + Effect.loadOf (w.handle e).2 < w.linter.load + 7 := by
  cases e with
  | added id d => exact load_act_lt { w with editors := w.editors.insert id d.uri } (.check d)
  | settled id d => exact w.load_act_lt (.check d)
  | retagged id d => exact w.load_act_lt (.check d)
  | destroyed id =>
    simp only [handle, close]
    split
    · exact Nat.lt_add_of_pos_right (by decide)
    · split_ifs
      · exact Nat.lt_add_of_pos_right (by decide)
      · have h := load_act_lt { w with editors := w.editors.erase id } (.retract ‹Uri›)
        exact h.trans (Nat.add_lt_add_left (show 2 < 7 by decide) w.linter.load)

end Workspace

/-! ## Sessions -/

namespace Session

variable {s : Session} {r : Session × List Outcome}

/-- How much is left to do about the timers. -/
def load (s : Session) : Nat := 8 * s.timers.length

theorem load_le_of_sublist {s' : Session} (h : s'.timers.Sublist s.timers) : s'.load ≤ s.load :=
  Nat.mul_le_mul_left 8 h.length_le

theorem load_close (s : Session) : s.close.load ≤ s.load :=
  close_keeps (P := fun s' => s'.load ≤ s.load)
    (fun _ _ h => (load_le_of_sublist (stopTimer_sublist _ _)).trans h) (Nat.le_refl _)

theorem load_edit (s : Session) (e : Edit) :
    (s.edit e).1.load + Outcome.loadOf (s.edit e).2 ≤ s.load + 8 := by
  have htimers : (s.edit e).1.load ≤ s.load + 8 * (s.armed? e).toList.length := by
    rw [load, timers_edit, List.length_append, Nat.mul_add]
    exact Nat.add_le_add_right (load_le_of_sublist (stopTimer_sublist _ _)) _
  cases e with
  | opened d =>
    have houtcomes : Outcome.loadOf (s.edit (.opened d)).2 = 7 := by
      simp only [edit, openDocument]
      split <;> rfl
    exact Nat.add_le_add htimers (houtcomes.trans_le (by decide))
  | changed u texts =>
    have houtcomes : Outcome.loadOf (s.edit (.changed u texts)).2 = 0 := by
      simp only [edit, changeDocument]
      split <;> rfl
    have harmed : (s.armed? (.changed u texts)).toList.length ≤ 1 := Option.length_toList_le
    omega
  | closed u =>
    have houtcomes : Outcome.loadOf (s.edit (.closed u)).2 ≤ 7 := by
      simp only [edit, closeDocument]
      split
      · exact Nat.le_refl 7
      · exact Nat.zero_le 7
    exact Nat.add_le_add htimers (houtcomes.trans (by decide))

theorem load_withParams {α : Type} (s : Session) (method : String) (params : Option α)
    {act : α → Session × List Outcome} (hact : ∀ p, ∃ e, act p = s.edit e) :
    (s.withParams method params act).1.load + Outcome.loadOf (s.withParams method params act).2 ≤
      s.load + 8 := by
  cases params with
  | none => exact Nat.le_add_right _ _
  | some p =>
    obtain ⟨e, he⟩ := hact p
    simp only [withParams, he]
    exact s.load_edit e

theorem load_note (s : Session) (method : String) (params : Json) :
    (s.note method params).1.load + Outcome.loadOf (s.note method params).2 ≤ s.load + 8 := by
  unfold note
  split_ifs
  · exact Nat.add_le_add_left (show 3 ≤ 8 by decide) s.load
  · exact Nat.add_le_add_left (show 3 ≤ 8 by decide) s.load
  · exact s.load_withParams _ _ fun d => ⟨.opened d, rfl⟩
  · exact s.load_withParams _ _ fun p => ⟨.changed p.1 p.2, rfl⟩
  · exact s.load_withParams _ _ fun u => ⟨.closed u, rfl⟩
  · exact Nat.le_add_right _ _

/-- A frame adds no more than its bytes have taken. -/
theorem load_receive (s : Session) (frame : Json) :
    (s.receive frame).1.load + Outcome.loadOf (s.receive frame).2 ≤ s.load + 8 := by
  unfold receive
  split
  · unfold replyTo
    split_ifs <;> exact Nat.add_le_add_left (show 1 ≤ 8 by decide) s.load
  · exact s.load_note _ _
  · exact Nat.add_le_add_left (show 3 ≤ 8 by decide) s.load
  · exact Nat.le_add_right _ _

theorem load_fire {t : Timer} (h : s.due? = some t) :
    (s.stopTimer (some t.id)).load + 8 ≤ s.load := by
  have hless : (s.stopTimer (some t.id)).timers.length < s.timers.length :=
    List.length_filter_lt_length_iff_exists.2 ⟨t, (mem_of_due h).1, by simp⟩
  simp only [load]
  omega

end Session

/-! ## Connections -/

theorem Connection.length_line_put (c : Connection) (i : Connection.Item) :
    (c.put i).line.length ≤ c.line.length + 1 := by
  unfold put
  split_ifs
  · exact List.length_append.le
  · exact Nat.le_succ _

theorem Connection.load_notify (c : Connection) (n : Notification) :
    (c.notify n).1.line.length +
        (((c.notify n).2.map fun e => Action.answered (.error e)).toList.map Action.load).sum ≤
      c.line.length + 3 := by
  simp only [notify]
  split_ifs
  · exact (length_line_put _ _).trans (Nat.add_le_add_left (by decide) _)
  · exact Nat.le_refl _

theorem Connection.length_line_showConfig (c : Connection) :
    c.showConfig.1.line.length ≤ c.line.length + 1 := by
  unfold showConfig
  split
  · exact Nat.le_succ _
  · split
    · exact Nat.le_succ _
    · simp only
      split_ifs
      · exact length_line_put _ _
      · exact Nat.le_succ _

theorem Connection.length_line_next {c c' : Connection} {f : Option Json}
    (h : c.next? = some (c', f)) : c'.line.length < c.line.length := by
  unfold next? at h
  split at h
  · rename_i hline
    cases h
    rw [hline]
    exact Nat.lt_succ_self _
  · rename_i hline
    cases h
    rw [hline]
    exact Nat.succ_pos _
  · cases h

namespace Server

variable {s : Server} {x : Step}

/-- How much is left to do. -/
def load (s : Server) : Nat :=
  -- A byte can become a timer, a timer an event, and an event an attempt.
  9 * s.input.length + s.session.load + 7 * s.events.length + (s.answers.map Action.load).sum +
    s.workspace.linter.load + s.connection.line.length + s.phase.load

/-! ## Parts of a step -/

theorem load_inTurn {α : Type} {act : Server → α → Server × List Order} {f : α → Nat}
    (hact : ∀ s a, (act s a).1.load ≤ s.load + f a) (s : Server) (things : List α) :
    (inTurn act s things).1.load ≤ s.load + (things.map f).sum := by
  induction things using List.reverseRecOn with
  | nil => exact Nat.le_refl _
  | append_singleton things a ih =>
    rw [inTurn_concat, List.map_append, List.sum_append, List.map_singleton, List.sum_singleton]
    exact (hact _ a).trans (by omega)

theorem load_perform (s : Server) (e : Effect) : (s.perform e).1.load ≤ s.load + e.load := by
  cases e with
  | tell n =>
    have h : (s.connection.tell n).line.length ≤ s.connection.line.length + 1 := by
      cases n <;> exact s.connection.length_line_put _
    simp only [load, perform, Effect.load]
    omega
  | notify n =>
    have h := s.connection.load_notify n
    simp only [load, perform, Effect.load, List.map_append, List.sum_append]
    omega
  | showConfig =>
    have h := s.connection.length_line_showConfig
    simp only [load, perform, Effect.load, List.map_append, List.sum_append, List.map_singleton,
      List.sum_singleton, Action.load]
    omega
  | _ => exact Nat.le_add_right _ _

theorem load_absorb (s : Server) (r : Workspace × List Effect) :
    (s.absorb r).1.load + s.workspace.linter.load ≤
      s.load + r.1.linter.load + Effect.loadOf r.2 := by
  have h := load_inTurn load_perform { s with workspace := r.1 } r.2
  simp only [absorb, Effect.loadOf]
  simp only [load] at h ⊢
  omega

theorem load_leave (s : Server) (r : Except FrameError Unit) :
    (s.leave r).load ≤ s.load + 3 := by
  have h := s.session.load_close
  simp only [load, leave, Phase.load]
  omega

theorem load_carryOut (s : Server) (o : Outcome) : (s.carryOut o).1.load ≤ s.load + o.load := by
  cases o with
  | reply frame =>
    have h := s.connection.length_line_put (.frame frame)
    simp only [load, carryOut, Connection.send, Outcome.load]
    omega
  | event e =>
    simp only [load, carryOut, Outcome.load, List.length_append, List.length_singleton]
    omega
  | answer id body =>
    simp only [carryOut]
    split
    · rename_i c choice hanswer
      obtain ⟨n, -, hc⟩ := Option.map_eq_some_iff.1 hanswer
      cases hc
      simp only [load, Outcome.load, List.map_append, List.sum_append, List.map_singleton,
        List.sum_singleton, Action.load]
      omega
    · exact Nat.le_add_right _ _
  | log e => exact Nat.le_add_right _ _
  | exit => exact s.load_leave _

theorem load_follow (s : Server) (r : Session × List Outcome) :
    (s.follow r).1.load + s.session.load ≤ s.load + r.1.load + Outcome.loadOf r.2 := by
  have h := load_inTurn load_carryOut { s with session := r.1 } r.2
  simp only [follow, Outcome.loadOf]
  simp only [load] at h ⊢
  omega

end Server

end LintServer
