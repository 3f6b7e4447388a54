import LintServer.Proofs.Linter.Inquiry
import LintServer.Proofs.Workspace.Moves

/-!
# Turns of an attempt

An attempt goes on one turn after the other: to the search for the runner, past it, and to its run.
It waits for the search, but not for the warning, nor for any answer of the user.

* `Workspace.inquiry_move`: what a move is to the search and the warning;
* `Stage.turns`, `Workspace.Within`: how many turns an attempt is away from its run;
* `within_move`, `within_turn`, `Due`: one move, one turn, and some moves;
* **`started_of_turns`**: an attempt that gets its turns starts, whatever else happens.
-/

namespace LintServer

/-- How many turns an attempt is away from its run. -/
def Stage.turns : Stage → Nat
  | fresh _ => 3
  | waiting => 2
  | cleared => 1
  | running _ => 0

namespace Workspace

variable {w : Workspace} {m : Move} {id k : Nat} {u : Uri} {text : String}

theorem inquiry_move (w : Workspace) (m : Move) :
    Linter.Inquiry w.linter (w.move m).1.linter (w.action? m) (w.move m).2 := by
  rw [move_eq]
  cases w.action? m with
  | none => exact .aside _ _ rfl rfl (by simp) rfl (by simp)
  | some a => exact Linter.inquiry_step w.linter a

/-- An attempt is so many turns away from its run at most. -/
def Within (w : Workspace) (id : Nat) (u : Uri) (text : String) (k : Nat) : Prop :=
  ∃ stage, w.linter.attempts.get? id = some ⟨u, text, stage⟩ ∧
    (⟨u, text, stage⟩ : Attempt).MayStart w.linter.settings.tag ∧ stage.turns ≤ k

theorem within_move (hl : w.linter.Orderly) (h : w.Within id u text k) (m : Move) :
    (∃ t, w.mark? m = some (.started id t text)) ∨ (w.move m).1.Within id u text k := by
  obtain ⟨stage, hget, hmay, hk⟩ := h
  unfold Within
  rw [settings_move]
  cases (change_move w m).fate id with
  | same hsame hm => exact .inr ⟨stage, hsame.trans hget, hmay, hk⟩
  | asked d new hstage hid hnew hm => exact absurd hid (Nat.ne_of_lt (hl.id_lt id _ hget))
  | started v x hold hnew hpublisher hm =>
    rw [hget] at hold
    cases hold
    exact .inl ⟨_, hm⟩
  | moved v x old new hold hnew hmove hlookup hm =>
    rw [hget] at hold
    cases hold
    rcases hmove with ⟨rfl, rfl⟩ | ⟨rfl, rfl⟩
    · exact .inr ⟨.waiting, hnew, trivial, Nat.le_of_succ_le hk⟩
    · exact .inr ⟨.cleared, hnew, trivial, Nat.le_of_succ_le hk⟩
  | skipped v x tag hold htag hnew hm =>
    rw [hget] at hold
    cases hold
    exact absurd hmay htag
  | ended v x t outcome hold hnew hm =>
    rw [hget] at hold
    cases hold
    exact hmay.elim

/-- A turn brings an attempt nearer to its run. Only the search is waited for. -/
theorem within_turn (h : w.Within id u text (k + 1))
    (hanswered : k = 1 → ∃ found, w.linter.lookup = .answered found) :
    (∃ t, w.mark? (.advance id) = some (.started id t text)) ∨
      (w.move (.advance id)).1.Within id u text k := by
  obtain ⟨stage, hget, hmay, hk⟩ := h
  unfold Within
  rw [settings_move]
  cases stage with
  | fresh tag =>
    obtain rfl : tag = w.linter.settings.tag := hmay
    refine .inr ⟨.waiting, ?_, trivial, Nat.le_of_succ_le_succ hk⟩
    simp [move, act, Linter.step, Linter.advance, hget, Linter.setStage]
  | waiting =>
    cases hlookup : w.linter.lookup with
    | answered found =>
      refine .inr ⟨.cleared, ?_, trivial, Nat.le_of_succ_le_succ hk⟩
      simp [move, act, Linter.step, Linter.advance, hget, hlookup, Linter.setStage]
    | _ =>
      -- The search is not over, so the attempt stays where it is: it had three turns to go.
      refine .inr ⟨.waiting, ?_, trivial, ?_⟩
      · simp [move, act, Linter.step, Linter.advance, hget, hlookup]
      · refine Nat.lt_of_le_of_ne (Nat.le_of_succ_le_succ hk) fun hk1 => ?_
        obtain ⟨found, hfound⟩ := hanswered hk1.symm
        rw [hlookup] at hfound
        cases hfound
  | cleared =>
    refine .inl ⟨(w.linter.publisher.begin u).2, ?_⟩
    simp only [mark?, action?, Option.bind_some, Linter.mark?, hget]
  | running t => exact hmay.elim

/-- What is left of an attempt behind some moves: it has started, or it is so many turns away. -/
def Due (w : Workspace) (ms : List Move) (id : Nat) (u : Uri) (text : String) (k : Nat) : Prop :=
  (∃ t, .started id t text ∈ w.marks ms) ∨ (w.run ms).Within id u text k

theorem due_nil (h : w.Within id u text k) : w.Due [] id u text k := .inr h

theorem Due.concat {ms : List Move} (h : w.Due ms id u text k) {k' : Nat}
    (hstep : (w.run ms).Within id u text k →
      (∃ t, (w.run ms).mark? m = some (.started id t text)) ∨
        ((w.run ms).move m).1.Within id u text k') :
    w.Due (ms ++ [m]) id u text k' := by
  unfold Due
  rw [marks_concat, run_concat]
  rcases h with ⟨t, ht⟩ | h
  · exact .inl ⟨t, List.mem_append_left _ ht⟩
  · rcases hstep h with ⟨t, ht⟩ | h
    · exact .inl ⟨t, List.mem_append_right _ (Option.mem_toList.2 ht)⟩
    · exact .inr h

theorem Due.append (hl : w.linter.Orderly) {ms : List Move} (h : w.Due ms id u text k)
    (ms' : List Move) : w.Due (ms ++ ms') id u text k := by
  induction ms' using List.reverseRecOn with
  | nil => rwa [List.append_nil]
  | append_singleton ms' m ih =>
    rw [← List.append_assoc]
    exact ih.concat fun hw => within_move (orderly_run hl _) hw m

theorem answered_run {found : Bool} (h : w.linter.lookup = .answered found) (ms : List Move) :
    (w.run ms).linter.lookup = .answered found := by
  induction ms using List.reverseRecOn with
  | nil => exact h
  | append_singleton ms m ih =>
    rw [run_concat]
    exact (inquiry_move _ m).answered ih

theorem Due.search (hl : w.linter.Orderly) (hasked : w.linter.Asked) {ms : List Move}
    (h : w.Due ms id u text 2) (found : Bool) :
    (∃ found', (w.run (ms ++ [.lookedUp found])).linter.lookup = .answered found') ∨
      w.Due (ms ++ [.lookedUp found]) id u text 1 := by
  rw [run_concat]
  rcases h with ⟨t, ht⟩ | ⟨stage, hget, hmay, hk⟩
  · exact .inr (.inl ⟨t, by rw [marks_concat]; exact List.mem_append_left _ ht⟩)
  · cases stage with
    | fresh tag => simp [Stage.turns] at hk
    | waiting =>
      -- What an attempt waits for has been asked, so the answer is taken.
      cases hlookup : (w.run ms).linter.lookup with
      | unasked => exact absurd hlookup (asked_run hasked ms id u text hget)
      | asked => exact .inl ⟨found, by simp [move, act, Linter.step, hlookup]⟩
      | answered found' => exact .inl ⟨found', by simp [move, act, Linter.step, hlookup]⟩
    | cleared =>
      have hwithin : w.Due ms id u text 1 := .inr ⟨.cleared, hget, hmay, Nat.le_refl 1⟩
      exact .inr (hwithin.append hl [.lookedUp found])
    | running t => exact hmay.elim

/-- **An attempt starts when it gets its turns** and the search is over by the second one, whatever
else happens: no answer of the search, of the user or of the editor keeps it from its run. -/
theorem started_of_turns (hl : w.linter.Orderly) (hasked : w.linter.Asked)
    (h : w.Within id u text 3) (ms₁ ms₂ ms₃ ms₄ : List Move)
    (hsearch : (∃ found, w.linter.lookup = .answered found) ∨ ∃ found, .lookedUp found ∈ ms₂) :
    ∃ t, .started id t text ∈ w.marks (ms₁ ++ [.advance id] ++ ms₂ ++ [.advance id] ++ ms₃ ++
      [.advance id] ++ ms₄) := by
  -- The first turn takes it to the search, the second one past it, and the third one to its run.
  have h₀ : w.Due ms₁ id u text 3 := (due_nil h).append hl ms₁
  have h₁ : w.Due (ms₁ ++ [.advance id]) id u text 2 :=
    h₀.concat fun hw => within_turn hw (by simp)
  have h₂ : w.Due (ms₁ ++ [.advance id] ++ ms₂ ++ [.advance id]) id u text 1 := by
    have hturn (hover : ∃ found, (w.run (ms₁ ++ [.advance id] ++ ms₂)).linter.lookup =
        .answered found) := (h₁.append hl ms₂).concat fun hw => within_turn hw fun _ => hover
    rcases hsearch with ⟨found, hfound⟩ | ⟨found, hfound⟩
    · exact hturn ⟨found, answered_run hfound _⟩
    · obtain ⟨before, after, rfl⟩ := List.append_of_mem hfound
      have hsplit : ms₁ ++ [.advance id] ++ (before ++ .lookedUp found :: after) =
          ms₁ ++ [.advance id] ++ before ++ [.lookedUp found] ++ after := by simp
      rw [hsplit] at hturn ⊢
      rcases (h₁.append hl before).search hl hasked found with ⟨found', hover⟩ | h
      · exact hturn ⟨found', by rw [run_append]; exact answered_run hover after⟩
      · exact (h.append hl after).append hl [.advance id]
  have h₃ : w.Due (ms₁ ++ [.advance id] ++ ms₂ ++ [.advance id] ++ ms₃ ++ [.advance id]) id u
      text 0 := (h₂.append hl ms₃).concat fun hw => within_turn hw (by simp)
  rcases h₃.append hl ms₄ with hstarted | ⟨stage, _, hmay, hk⟩
  · exact hstarted
  · cases stage with
    | running t => exact hmay.elim
    | _ => simp [Stage.turns] at hk

end Workspace

end LintServer
