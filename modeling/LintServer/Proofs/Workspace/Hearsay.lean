import LintServer.Proofs.Linter.Latest
import LintServer.Proofs.Workspace.Moves

/-!
# What a workspace has heard

All that a workspace knows of the open documents it knows from events. What it has heard of a
document is the last text that it has been asked to check, unless the document has been closed
since.

* `View`, `View.after`: what events say, one after the other;
* `view_move`: the moves of a workspace, seen so;
* **`latest_run`**: if attempts take their tickets promptly, the last attempt at a document has the
  last word.
-/

namespace LintServer

/-- What is known of editors and documents. -/
structure View where
  editors : Table EditorId Uri
  /-- The last text of each document that is still open. -/
  documents : Uri → Option Document

/-- What is known of documents after an action of the linter. -/
def Action.onto (a : Action) (documents : Uri → Option Document) : Uri → Option Document :=
  match a with
  | check d => fun u => if u = d.uri then some d else documents u
  | retract v => fun u => if u = v then none else documents u
  | _ => documents

/-- What is known after an event. -/
def View.after (v : View) (e : EditorEvent) : View where
  editors := e.editorsAfter v.editors
  documents := (e.action? v.editors).elim v.documents fun a => a.onto v.documents

theorem lastAsked_append (h : List Mark) (m : Option Mark) :
    lastAsked (h ++ m.toList) = m.elim (lastAsked h) fun k => k.onto (lastAsked h) := by
  cases m with
  | none => rw [Option.toList_none, List.append_nil]; rfl
  | some k => exact List.foldl_append

namespace Workspace

variable {w : Workspace} {m : Move} {h : List Mark} {u : Uri}

/-- What a workspace knows, with the marks of its past. -/
def view (w : Workspace) (h : List Mark) : View := ⟨w.editors, fun u => (lastAsked h u).map Prod.snd⟩

/-- The event of a move, if it is one. -/
def Move.event? : Move → Option EditorEvent
  | event e => some e
  | _ => none

theorem editors_run (w : Workspace) (ms : List Move) :
    (w.run ms).editors = (ms.filterMap Move.event?).foldl EditorEvent.editorsAfter w.editors := by
  induction ms using List.reverseRecOn with
  | nil => rfl
  | append_singleton ms m ih =>
    rw [run_concat, editors_move, List.filterMap_append, List.foldl_append, ← ih]
    cases m <;> rfl

/-- **Only events count.** -/
theorem view_move (w : Workspace) (m : Move) (h : List Mark) :
    (w.move m).1.view (h ++ (w.mark? m).toList) =
      m.event?.elim (w.view h) fun e => (w.view h).after e := by
  have heditors := editors_move w m
  cases hk : m.event? with
  | some e =>
    obtain rfl : m = .event e := by
      cases m <;> cases hk
      rfl
    simp only [view, View.after, Option.elim, View.mk.injEq]
    refine ⟨heditors, funext fun u => ?_⟩
    rw [lastAsked_append]
    simp only [mark?, action?]
    cases hact : e.action? w.editors with
    | none => rfl
    | some a =>
      obtain ⟨d, _, rfl⟩ | ⟨_, v, _, _, rfl⟩ := EditorEvent.action?_cases hact
      · simp only [Option.bind_some, Linter.mark?, Option.elim, Mark.onto, Action.onto]
        split_ifs <;> rfl
      · simp only [Option.bind_some, Linter.mark?, Option.elim, Mark.onto, Action.onto]
        split_ifs <;> rfl
  | none =>
    have hmark : lastAsked (h ++ (w.mark? m).toList) = lastAsked h := by
      rw [lastAsked_append]
      cases hm : w.mark? m with
      | none => rfl
      | some k =>
        have hk' := move_of_mark hm
        cases k with
        | asked id d =>
          obtain ⟨_, e, rfl, _⟩ := hk'
          cases hk
        | removed v =>
          obtain ⟨e, rfl, _⟩ := hk'
          cases hk
        | _ => rfl
    simp only [view, Option.elim, hmark, heditors]
    cases m with
    | event e => cases hk
    | _ => rfl

/-! ## Prompt attempts -/

/-- Every attempt that may start has taken its ticket when an event is handled. -/
def Ready (w : Workspace) (m : Move) : Prop := ∀ e, m = .event e → ∀ u, w.linter.Calm u

/-- Every attempt takes its ticket before the next event is handled. -/
abbrev Prompt (w : Workspace) (ms : List Move) : Prop := w.Along Ready ms

theorem traced_run (hl : w.linter.Orderly) (ms : List Move) :
    (w.run ms).linter.Traced (w.marks ms) := by
  induction ms using List.reverseRecOn with
  | nil => exact Linter.traced_nil _
  | append_singleton ms m ih =>
    rw [run_concat, marks_concat]
    exact ih.change (orderly_run hl ms) (change_move _ m)

/-- **The last attempt at a document has the last word**, if attempts take their tickets promptly. -/
theorem latest_run (hl : w.linter.Orderly) {ms : List Move} (hprompt : w.Prompt ms) {id : Nat}
    {d : Document} (hlast : lastAsked (w.marks ms) u = some (id, d))
    (htag : d.tag = w.linter.settings.tag) :
    (w.run ms).linter.Latest (w.marks ms) u id d.text := by
  induction ms using List.reverseRecOn with
  | nil => cases hlast
  | append_singleton ms m ih =>
    obtain ⟨hprompt', hready⟩ := along_concat.1 hprompt
    have horderly := orderly_run hl ms
    have htraced := traced_run hl ms
    have hchange := change_move (w.run ms) m
    have hsettings := settings_move (w.run ms) m
    rw [run_concat, marks_concat] at *
    rw [lastAsked_append] at hlast
    -- Unless this move asks for the attempt, it was the last one before.
    have hkeep : lastAsked (w.marks ms) u = some (id, d) →
        (∀ id d, (w.run ms).mark? m = some (.asked id d) → d.uri ≠ u) →
        (w.run ms).mark? m ≠ some (.removed u) →
        ((w.run ms).move m).1.linter.Latest (w.marks ms ++ ((w.run ms).mark? m).toList) u id
          d.text :=
      fun hold hasked hremoved => (ih hprompt' hold).change horderly htraced hchange hsettings
        hasked (fun findings hm => move_of_mark hm) hremoved
    cases hm : (w.run ms).mark? m with
    | none =>
      rw [hm] at hlast hkeep
      exact hkeep hlast (by simp) (by simp)
    | some k =>
      rw [hm] at hlast hkeep hchange
      cases k with
      | asked id' d' =>
        simp only [Option.elim, Mark.onto] at hlast
        split_ifs at hlast with hu
        · cases hlast
          subst hu
          obtain ⟨_, e, rfl, _⟩ := move_of_mark hm
          refine Linter.Latest.of_asked htraced (hready e rfl d.uri) hchange hsettings ?_
          rw [settings_run, htag]
        · refine hkeep hlast (fun id d hk => ?_) (by simp)
          cases hk
          exact Ne.symm hu
      | removed v =>
        simp only [Option.elim, Mark.onto] at hlast
        split_ifs at hlast with hu
        refine hkeep hlast (by simp) fun hk => ?_
        cases hk
        exact hu rfl
      | started id' t x => exact hkeep hlast (by simp) (by simp)
      | ended id' t o => exact hkeep hlast (by simp) (by simp)
      | replaced v findings => exact (move_of_mark hm).elim

end Workspace

end LintServer
