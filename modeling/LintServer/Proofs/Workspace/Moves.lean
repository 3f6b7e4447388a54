import LintServer.Proofs.Linter.Life
import LintServer.Workspace
import Mathlib.Data.List.Induction

/-!
# Runs of a workspace

Events of editors and the steps of attempts may follow each other in any order. An event only asks
for an attempt or removes a document; what becomes of the attempt is up to later moves.

* `Workspace.Move`, `Workspace.move`: what may happen to a workspace;
* `Workspace.action?`: what a move is to the linter;
* **`change_move`**, `move_of_mark`: what it does to the attempts and their tickets;
* `Workspace.run`, `effects`, `marks`, `notices`, `Along`: runs;
* `validate_mem_effects_iff`: what the validator is fed.
-/

namespace LintServer

namespace EditorEvent

/-- The open editors after an event. -/
def editorsAfter (editors : Table EditorId Uri) : EditorEvent → Table EditorId Uri
  | added e d => editors.insert e d.uri
  | destroyed e => editors.erase e
  | _ => editors

/-- What an event is to the linter. The issues of a document go with its last editor. -/
def action? (editors : Table EditorId Uri) : EditorEvent → Option Action
  | added _ d => some (.check d)
  | settled _ d => some (.check d)
  | retagged _ d => some (.check d)
  | destroyed e =>
    match editors.get? e with
    | some u => if (editors.erase e).values.contains u then none else some (.retract u)
    | none => none

/-- An event asks for a check, or it removes the document of the editor that is closed. -/
theorem action?_cases {editors : Table EditorId Uri} {e : EditorEvent} {a : Action}
    (h : e.action? editors = some a) : (∃ d, e.document? = some d ∧ a = .check d) ∨
      ∃ e' u, e = destroyed e' ∧ editors.get? e' = some u ∧ a = .retract u := by
  cases e with
  | destroyed e =>
    simp only [action?] at h
    split at h
    · split_ifs at h
      exact .inr ⟨e, _, rfl, by assumption, (Option.some.inj h).symm⟩
    · cases h
  | _ => exact .inl ⟨_, rfl, (Option.some.inj h).symm⟩

end EditorEvent

namespace Workspace

/-- What may happen to a workspace. -/
inductive Move where
  | event (e : EditorEvent)
  /-- An attempt goes on. -/
  | advance (id : Nat)
  | lookedUp (found : Bool)
  | ended (id : Nat) (outcome : Except RunError Run)
  | answered (choice : Except HostError (Option Nat))
  | configShown (r : Except HostError Unit)
  | installed (r : Except InstallError Unit)

/-- One move. -/
def move (w : Workspace) : Move → Workspace × List Effect
  | .event e => w.handle e
  | .advance id => w.act (.advance id)
  | .lookedUp found => w.act (.lookedUp found)
  | .ended id outcome => w.act (.ended id outcome)
  | .answered choice => w.act (.answered choice)
  | .configShown r => w.act (.configShown r)
  | .installed r => w.act (.installed r)

/-- What a move is to the linter. -/
def action? (w : Workspace) : Move → Option Action
  | .event e => e.action? w.editors
  | .advance id => some (.advance id)
  | .lookedUp found => some (.lookedUp found)
  | .ended id outcome => some (.ended id outcome)
  | .answered choice => some (.answered choice)
  | .configShown r => some (.configShown r)
  | .installed r => some (.installed r)

/-- The open editors after a move. -/
def editorsAfter (w : Workspace) : Move → Table EditorId Uri
  | .event e => e.editorsAfter w.editors
  | _ => w.editors

variable {w : Workspace} {m : Move}

/-- A move is an action of the linter, or none, beside a change of the open editors. -/
theorem move_eq (w : Workspace) (m : Move) :
    w.move m = match w.action? m with
      | some a => ({ linter := (w.linter.step a).1, editors := w.editorsAfter m },
          (w.linter.step a).2)
      | none => ({ w with editors := w.editorsAfter m }, []) := by
  cases m with
  | event e =>
    cases e with
    | destroyed e =>
      simp only [move, handle, close, action?, EditorEvent.action?, editorsAfter,
        EditorEvent.editorsAfter]
      cases hget : w.editors.get? e with
      | none =>
        rw [Table.erase_of_get?_eq_none hget]
      | some u =>
        cases hopen : (w.editors.erase e).values.contains u with
        | true => simp only [isOpen, hopen, if_true]
        | false => simp only [isOpen, hopen, Bool.false_eq_true, if_false, act]
    | _ => rfl
  | _ => rfl

/-- What is remembered of a move. -/
def mark? (w : Workspace) (m : Move) : Option Mark := (w.action? m).bind w.linter.mark?

/-- **One move** changes attempts and tickets as an action does, or not at all. -/
theorem change_move (w : Workspace) (m : Move) :
    Linter.Change w.linter (w.move m).1.linter (w.mark? m) (Effect.notices (w.move m).2) := by
  rw [move_eq, mark?]
  cases w.action? m with
  | none => exact .idle rfl rfl rfl
  | some a => exact Linter.change_step w.linter a

@[simp] theorem settings_move (w : Workspace) (m : Move) :
    (w.move m).1.linter.settings = w.linter.settings := by
  rw [move_eq]
  cases w.action? m with
  | none => rfl
  | some a => exact Linter.settings_step w.linter a

theorem editors_move (w : Workspace) (m : Move) : (w.move m).1.editors = w.editorsAfter m := by
  rw [move_eq]
  cases w.action? m <;> rfl

/-- What a mark says about the move. Only an event asks for an attempt, and only the closing of its
last editor removes a document. -/
theorem move_of_mark {k : Mark} (h : w.mark? m = some k) :
    match k with
    | .asked id d => id = w.linter.next ∧ ∃ e, m = .event e ∧ e.document? = some d
    | .started id _ _ => m = .advance id
    | .ended id _ outcome => m = .ended id outcome
    | .replaced _ _ => False
    | .removed u => ∃ e, m = .event (.destroyed e) ∧ w.editors.get? e = some u ∧
        ∀ e', e' ≠ e → w.editors.get? e' ≠ some u := by
  cases m with
  | event e =>
    cases e with
    | destroyed e =>
      simp only [mark?, action?, EditorEvent.action?] at h
      split at h
      · rename_i u hget
        split_ifs at h with hopen
        · cases h
        · cases h
          refine ⟨e, rfl, hget, fun e' hne hget' => hopen ?_⟩
          rw [List.contains_iff_mem, Table.mem_values_iff]
          exact ⟨e', by rw [Table.get?_erase, if_neg hne, hget']⟩
      · cases h
    | _ =>
      cases h
      exact ⟨rfl, _, rfl, rfl⟩
  | advance id =>
    simp only [mark?, action?, Option.bind_some, Linter.mark?] at h
    split at h
    · cases h
      rfl
    · cases h
  | ended id outcome =>
    simp only [mark?, action?, Option.bind_some, Linter.mark?] at h
    split at h
    · cases h
      rfl
    · cases h
  | _ => cases h

/-! ## Runs -/

/-- The workspace after some moves. -/
def run (w : Workspace) (ms : List Move) : Workspace := ms.foldl (fun w m => (w.move m).1) w

/-- What is to be done outside in a run. -/
def effects (w : Workspace) : List Move → List Effect
  | [] => []
  | m :: ms => (w.move m).2 ++ effects (w.move m).1 ms

/-- What is remembered of a run. -/
def marks (w : Workspace) : List Move → List Mark
  | [] => []
  | m :: ms => (w.mark? m).toList ++ marks (w.move m).1 ms

/-- What the editor is told in a run. -/
def notices (w : Workspace) (ms : List Move) : List Notice := Effect.notices (w.effects ms)

theorem run_append (w : Workspace) (ms ms' : List Move) : w.run (ms ++ ms') = (w.run ms).run ms' :=
  List.foldl_append

theorem effects_append (w : Workspace) (ms ms' : List Move) :
    w.effects (ms ++ ms') = w.effects ms ++ (w.run ms).effects ms' := by
  induction ms generalizing w with
  | nil => rfl
  | cons m ms ih =>
    rw [List.cons_append, effects, ih, effects, List.append_assoc]
    rfl

theorem marks_append (w : Workspace) (ms ms' : List Move) :
    w.marks (ms ++ ms') = w.marks ms ++ (w.run ms).marks ms' := by
  induction ms generalizing w with
  | nil => rfl
  | cons m ms ih =>
    rw [List.cons_append, marks, ih, marks, List.append_assoc]
    rfl

theorem run_concat (w : Workspace) (ms : List Move) (m : Move) :
    w.run (ms ++ [m]) = ((w.run ms).move m).1 := run_append w ms [m]

theorem marks_concat (w : Workspace) (ms : List Move) (m : Move) :
    w.marks (ms ++ [m]) = w.marks ms ++ ((w.run ms).mark? m).toList := by
  rw [marks_append, marks, marks, List.append_nil]

theorem notices_concat (w : Workspace) (ms : List Move) (m : Move) :
    w.notices (ms ++ [m]) = w.notices ms ++ Effect.notices ((w.run ms).move m).2 := by
  rw [notices, effects_append, effects, effects, List.append_nil, Effect.notices,
    List.filterMap_append]
  rfl

@[simp] theorem settings_run (w : Workspace) (ms : List Move) :
    (w.run ms).linter.settings = w.linter.settings := by
  induction ms using List.reverseRecOn with
  | nil => rfl
  | append_singleton ms m ih => rw [run_concat, settings_move, ih]

theorem validate_mem_move_iff (w : Workspace) (m : Move) {id : Nat} {command : Command}
    {text : String} : .validate id command text ∈ (w.move m).2 ↔
      command = w.linter.settings.command ∧ ∃ t, w.mark? m = some (.started id t text) := by
  rw [move_eq, mark?]
  cases w.action? m with
  | none => simp
  | some a => exact Linter.validate_mem_step_iff w.linter a

/-- **What the validator is fed** in a run are the texts of the attempts that take a ticket. -/
theorem validate_mem_effects_iff (w : Workspace) (ms : List Move) {id : Nat} {command : Command}
    {text : String} : .validate id command text ∈ w.effects ms ↔
      command = w.linter.settings.command ∧ ∃ t, .started id t text ∈ w.marks ms := by
  induction ms using List.reverseRecOn with
  | nil => simp [effects, marks]
  | append_singleton ms m ih =>
    rw [effects_append, marks_concat, List.mem_append, ih, effects, effects, List.append_nil,
      validate_mem_move_iff, settings_run, ← and_or_left, ← exists_or]
    simp only [List.mem_append, Option.mem_toList]

/-- Something holds at every move of a run. -/
def Along (P : Workspace → Move → Prop) (w : Workspace) : List Move → Prop
  | [] => True
  | m :: ms => P w m ∧ Along P (w.move m).1 ms

theorem along_append {P : Workspace → Move → Prop} {ms ms' : List Move} :
    w.Along P (ms ++ ms') ↔ w.Along P ms ∧ (w.run ms).Along P ms' := by
  induction ms generalizing w with
  | nil => exact (and_iff_right trivial).symm
  | cons m ms ih =>
    rw [List.cons_append, Along, ih, Along, and_assoc]
    rfl

theorem along_concat {P : Workspace → Move → Prop} {ms : List Move} :
    w.Along P (ms ++ [m]) ↔ w.Along P ms ∧ P (w.run ms) m := by
  rw [along_append, Along, Along, and_true]

theorem orderly_run (h : w.linter.Orderly) (ms : List Move) : (w.run ms).linter.Orderly := by
  induction ms using List.reverseRecOn with
  | nil => exact h
  | append_singleton ms m ih =>
    rw [run_concat]
    exact ih.change (change_move _ m)

theorem asked_run (h : w.linter.Asked) (ms : List Move) : (w.run ms).linter.Asked := by
  induction ms using List.reverseRecOn with
  | nil => exact h
  | append_singleton ms m ih =>
    rw [run_concat]
    refine ih.change (change_move _ m) fun hne => ?_
    rw [move_eq]
    cases (w.run ms).action? m with
    | none => exact hne
    | some a => exact Linter.lookup_step hne a

end Workspace

end LintServer
