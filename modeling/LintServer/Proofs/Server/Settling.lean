import LintServer.Proofs.Server.Ending
import LintServer.Proofs.Server.Load
import Mathlib.Algebra.Order.BigOperators.Group.List

/-!
# A server settles

What a server can do without the outside comes to an end, since each step inside leaves less to do
than it found. So the fuel suffices, and a server that has settled can do nothing more by itself.
What it has done is a run of single steps like any other.

* `Step.Inside`, `Possible`: the steps inside, and those that get anywhere;
* `possible_of_ready`, `not_possible_of_ready`: the step that comes next;
* **`load_step_lt`**, `load_le_budget`: the fuel;
* **`settle_atRest`**, **`run_atRest`**, **`exists_steps_of_runs`**.
-/

namespace LintServer.Server

variable {s : Server} {x : Step}

/-! ## Steps inside -/

/-- The steps that need nothing from outside. -/
def Step.Inside : Step → Prop
  | read | handle | deliver | advance _ | fire | stop | write | finish => True
  | _ => False

/-- The steps inside that get anywhere. -/
inductive Possible (s : Server) : Step → Prop
  | read (h : s.canRead = true) : Possible s .read
  | handle (h : s.events ≠ []) : Possible s .handle
  | deliver (h : s.answers ≠ []) : Possible s .deliver
  | advance (id : Nat) (h : id ∈ s.workspace.linter.canAdvance) : Possible s (.advance id)
  | fire (h : s.session.due?.isSome = true) : Possible s .fire
  | stop (h : s.canStop = true) : Possible s .stop
  | write (h : s.connection.next?.isSome = true) : Possible s .write
  | finish (h : s.canFinish = true) : Possible s .finish

theorem Possible.inside (h : s.Possible x) : x.Inside := by cases h <;> trivial

/-- A step inside that is not possible does nothing. -/
theorem step_of_not_possible (hx : x.Inside) (h : ¬ s.Possible x) : s.step x = (s, []) := by
  cases x with
  | read =>
    have hread : s.canRead ≠ true := fun hc => h (.read hc)
    simp only [canRead] at hread
    cases hphase : s.phase with
    | reading =>
      simp only [step, hphase, readFrame]
      cases hframe : Frame.read s.inputEnded s.input with
      | more => rfl
      | _ => simp [hphase, hframe] at hread
    | _ => simp only [step, hphase]
  | handle =>
    have hevents : s.events = [] := not_not.1 fun hc => h (.handle hc)
    simp only [step, hevents]
  | deliver =>
    have hanswers : s.answers = [] := not_not.1 fun hc => h (.deliver hc)
    simp only [step, hanswers]
  | advance id =>
    have hstay := Linter.advance_of_not_mem fun hc => h (.advance id hc)
    simp only [step, act, Workspace.act, Linter.step, hstay]
    rfl
  | fire =>
    have hdue : s.session.due? = none := by simpa using fun hc => h (.fire hc)
    simp only [step, Session.fire?, hdue, Option.map_none]
  | stop =>
    have hstop : s.canStop ≠ true := fun hc => h (.stop hc)
    simp only [step]
    split
    · rename_i hphase hevents
      simp [canStop, hphase, hevents] at hstop
    · rfl
  | write =>
    have hnext : s.connection.next? = none := by simpa using fun hc => h (.write hc)
    simp only [step, writeNext, hnext]
  | finish =>
    have hfinish : s.canFinish ≠ true := fun hc => h (.finish hc)
    simp only [step]
    split
    · rename_i hphase
      rw [if_pos (by simpa [canFinish, hphase] using hfinish)]
    · rfl
  | _ => exact hx.elim

theorem possible_of_ready (h : s.ready? = some x) : s.Possible x := by
  cases holdest : s.workspace.linter.oldest? with
  | some id =>
    simp only [ready?, holdest] at h
    split_ifs at h with hread hevents hanswers
    · cases h
      exact .read hread
    · cases h
      exact .handle (by simpa using hevents)
    · cases h
      exact .deliver (by simpa using hanswers)
    · cases h
      exact .advance id (List.min?_mem holdest)
  | none =>
    simp only [ready?, holdest] at h
    split_ifs at h with hread hevents hanswers hdue hstop hnext hfinish
    · cases h
      exact .read hread
    · cases h
      exact .handle (by simpa using hevents)
    · cases h
      exact .deliver (by simpa using hanswers)
    · cases h
      exact .fire hdue
    · cases h
      exact .stop hstop
    · cases h
      exact .write hnext
    · cases h
      exact .finish hfinish

theorem not_possible_of_ready (h : s.ready? = none) : ¬ s.Possible x := by
  cases holdest : s.workspace.linter.oldest? with
  | some id =>
    simp only [ready?, holdest] at h
    split_ifs at h
  | none =>
    simp only [ready?, holdest] at h
    split_ifs at h with hread hevents hanswers hdue hstop hnext hfinish
    intro hp
    cases hp with
    | read hc => exact hread hc
    | handle hc => exact hevents (by simpa using hc)
    | deliver hc => exact hanswers (by simpa using hc)
    | advance id hc =>
      rw [Linter.oldest?, List.min?_eq_none_iff] at holdest
      exact absurd hc (holdest ▸ List.not_mem_nil)
    | fire hc => exact hdue hc
    | stop hc => exact hstop hc
    | write hc => exact hnext hc
    | finish hc => exact hfinish hc

/-- A frame takes at least one byte, and the end of the session its phase. -/
theorem load_readFrame_lt (hreading : s.phase = .reading) (h : s.canRead = true) :
    s.readFrame.1.load < s.load := by
  have hleave : ∀ r, (s.leave r).load < s.load := fun r => by
    have hclose := s.session.load_close
    simp only [load, leave, hreading, Phase.load]
    omega
  simp only [canRead, hreading] at h
  unfold readFrame
  cases hframe : Frame.read s.inputEnded s.input with
  | more => simp [hframe] at h
  | closed => exact hleave _
  | failed e => exact hleave _
  | body bytes rest =>
    have hrest := Frame.length_rest_read hframe
    have hfollow : ∀ r : Session × List Outcome,
        r.1.load + Outcome.loadOf r.2 ≤ s.session.load + 8 →
        ({ s with input := rest }.follow r).1.load < s.load := fun r hr => by
      have h := load_follow { s with input := rest } r
      simp only [load] at h ⊢
      omega
    refine hfollow _ ?_
    split
    · exact s.session.load_receive _
    · exact Nat.le_add_right _ _

/-- **A possible step inside leaves less to do.** -/
theorem load_step_lt (h : s.Possible x) : (s.step x).1.load < s.load := by
  cases h with
  | read h =>
    have hreading : s.phase = .reading := by
      cases hphase : s.phase with
      | reading => rfl
      | _ => simp [canRead, hphase] at h
    simp only [step, hreading]
    exact load_readFrame_lt hreading h
  | handle h =>
    obtain ⟨e, rest, hevents⟩ := List.exists_cons_of_ne_nil h
    have habsorb := load_absorb { s with events := rest } (s.workspace.handle e)
    have hhandle := s.workspace.load_handle_lt e
    simp only [step, hevents]
    simp only [load, hevents, List.length_cons] at habsorb ⊢
    omega
  | deliver h =>
    obtain ⟨a, rest, hanswers⟩ := List.exists_cons_of_ne_nil h
    have habsorb := load_absorb { s with answers := rest } (s.workspace.act a)
    have hact := s.workspace.load_act_lt a
    simp only [step, hanswers, act]
    simp only [load, hanswers, List.map_cons, List.sum_cons] at habsorb ⊢
    omega
  | advance id h =>
    have habsorb := s.load_absorb (s.workspace.act (.advance id))
    have hadvance := Linter.load_advance_lt h
    simp only [step, act, Workspace.act, Linter.step] at habsorb ⊢
    omega
  | fire h =>
    obtain ⟨t, hdue⟩ := Option.isSome_iff_exists.1 h
    have hfire := Session.load_fire hdue
    simp only [step, Session.fire?, hdue, Option.map_some]
    simp only [load, List.length_append, List.length_singleton]
    omega
  | stop h =>
    obtain ⟨r, hphase, hevents⟩ : ∃ r, s.phase = .over r ∧ s.events = [] := by
      rcases hphase : s.phase with _ | r | r | r
      · simp [canStop, hphase] at h
      · exact ⟨r, rfl, by simpa [canStop, hphase] using h⟩
      · simp [canStop, hphase] at h
      · simp [canStop, hphase] at h
    have hput := s.connection.length_line_put .stop
    simp only [step, hphase, hevents]
    simp only [load, hphase, hevents, Phase.load]
    omega
  | write h =>
    obtain ⟨⟨c, f⟩, hnext⟩ := Option.isSome_iff_exists.1 h
    have hline := Connection.length_line_next hnext
    rw [step_write hnext]
    simp only [load]
    omega
  | finish h =>
    obtain ⟨r, hphase, hclosed⟩ : ∃ r, s.phase = .stopping r ∧ s.connection.isOpen = false := by
      cases hphase : s.phase with
      | stopping r => exact ⟨r, rfl, by simpa [canFinish, hphase] using h⟩
      | _ => simp [canFinish, hphase] at h
    simp only [step, hphase, hclosed, Bool.false_eq_true, if_false, load, Phase.load]
    omega

/-! ## Settling -/

/-- There is enough fuel: no summand counts more than sixteen. -/
theorem load_le_budget (s : Server) : s.load ≤ s.budget := by
  have hanswers : (s.answers.map Action.load).sum ≤ s.answers.length * 7 := by
    refine (List.sum_le_card_nsmul _ 7 fun n hn => ?_).trans_eq (by simp)
    obtain ⟨a, -, rfl⟩ := List.mem_map.1 hn
    exact a.load_le
  have hattempts : s.workspace.linter.load ≤ s.workspace.linter.attempts.entries.length * 6 := by
    refine (List.sum_le_card_nsmul _ 6 fun n hn => ?_).trans_eq (by simp)
    obtain ⟨⟨id, a⟩, -, rfl⟩ := List.mem_map.1 hn
    exact a.stage.load_le
  have hphase := s.phase.load_le
  simp only [load, budget, Session.load]
  omega

theorem exists_settleIn {fuel : Nat} (h : s.load ≤ fuel) (orders : List Order) :
    ∃ xs : List Step, (∀ x ∈ xs, x.Inside) ∧
      settleIn fuel s orders = ((inTurn step s xs).1, orders ++ (inTurn step s xs).2) ∧
      (inTurn step s xs).1.ready? = none := by
  -- Each step takes one unit of fuel, and at least one of what is left to do.
  induction fuel generalizing s orders with
  | zero =>
    refine ⟨[], fun _ hx => absurd hx List.not_mem_nil, ?_, ?_⟩
    · simp [settleIn, inTurn]
    · refine Option.eq_none_iff_forall_ne_some.2 fun x hx => ?_
      have hless := load_step_lt (possible_of_ready hx)
      exact absurd (hless.trans_le h) (Nat.not_lt_zero _)
  | succ fuel ih =>
    cases hready : s.ready? with
    | none =>
      refine ⟨[], fun _ hx => absurd hx List.not_mem_nil, ?_, hready⟩
      simp [settleIn, hready, inTurn]
    | some x =>
      have hpossible := possible_of_ready hready
      have hless := (load_step_lt hpossible).trans_le h
      obtain ⟨xs, hxs, hsettle, hnone⟩ :=
        ih (Nat.le_of_lt_succ hless) (orders ++ (s.step x).2)
      refine ⟨x :: xs, List.forall_mem_cons.2 ⟨hpossible.inside, hxs⟩, ?_, ?_⟩
      · simp only [settleIn, hready, hsettle, inTurn_cons, List.append_assoc]
      · rwa [inTurn_cons]

/-- No step inside does anything. -/
def AtRest (s : Server) : Prop := ∀ x : Step, x.Inside → s.step x = (s, [])

/-- **A server settles** in steps inside, and none is left that does anything. -/
theorem settle_atRest (s : Server) :
    ∃ xs : List Step, (∀ x ∈ xs, x.Inside) ∧ s.settle = inTurn step s xs ∧ s.settle.1.AtRest := by
  obtain ⟨xs, hxs, hsettle, hnone⟩ := exists_settleIn s.load_le_budget []
  rw [List.nil_append] at hsettle
  refine ⟨xs, hxs, hsettle, fun y hy => ?_⟩
  rw [settle, hsettle]
  exact step_of_not_possible hy (not_possible_of_ready hnone)

/-- **A run is a step and then steps inside**, until none is left that does anything. -/
theorem run_atRest (s : Server) (x : Step) :
    ∃ xs : List Step, (∀ x ∈ xs, x.Inside) ∧ s.run x = inTurn step s (x :: xs) ∧
      (s.run x).1.AtRest := by
  obtain ⟨xs, hxs, hsettle, hrest⟩ := (s.step x).1.settle_atRest
  refine ⟨xs, hxs, ?_, hrest⟩
  rw [inTurn_cons, ← hsettle]
  rfl

/-- **Runs one after the other are single steps**, so what holds of all steps in any order holds of
them. The steps in between are made inside. -/
theorem exists_steps_of_runs (s : Server) (xs : List Step) :
    ∃ ys : List Step, xs.Sublist ys ∧ inTurn run s xs = inTurn step s ys := by
  induction xs generalizing s with
  | nil => exact ⟨[], List.Sublist.refl _, rfl⟩
  | cons x xs ih =>
    obtain ⟨inside, -, hrun, -⟩ := s.run_atRest x
    obtain ⟨ys, hsub, hys⟩ := ih (s.run x).1
    refine ⟨x :: inside ++ ys, (hsub.trans (List.sublist_append_right _ _)).cons_cons x, ?_⟩
    rw [inTurn_cons, hys, hrun, inTurn_append]

end LintServer.Server
