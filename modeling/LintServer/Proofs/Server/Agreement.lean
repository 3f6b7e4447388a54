import LintServer.Proofs.Server.Moves

/-!
# Issues agree with texts

Four parts work side by side: the session follows the edits, timers hold them back, the workspace
makes attempts of events, and the publisher keeps the results apart. When nothing is on its way from
one to the next, they agree about every document.

* `Server.Prompt`: attempts take their tickets before the next event is handled;
* `Server.marks`, `reported_inTurn`: what the workspace will have heard when the queue is empty;
* **`issues_agree_with_text`**: the last attempt at a document that rests is fed its text, and its
  findings are the issues of the document.
-/

namespace LintServer

instance (p : Phase) : Decidable (p = .reading) :=
  match p with
  | .reading => .isTrue rfl
  | .over _ => .isFalse nofun
  | .stopping _ => .isFalse nofun
  | .ended _ => .isFalse nofun

namespace Server

open Workspace (Move)

variable {s : Server} {xs : List Step} {u : Uri}

/-- Whenever an event is handled, every attempt that may start has taken its ticket. -/
def Prompt (s : Server) : List Step → Prop
  | [] => True
  | x :: xs =>
    (x = .handle → s.events ≠ [] → ∀ u, s.workspace.linter.Calm u) ∧ Prompt (s.step x).1 xs

/-- What is remembered of the moves in some steps. -/
def marks (s : Server) (xs : List Step) : List Mark := s.workspace.marks (s.moves xs)

/-! ## Prompt servers -/

theorem handle_of_move? {x : Step} {e : EditorEvent} (h : s.move? x = some (.event e)) :
    x = .handle ∧ s.events ≠ [] := by
  cases x with
  | handle =>
    refine ⟨rfl, fun hnil => ?_⟩
    rw [move?, hnil] at h
    cases h
  | deliver =>
    simp only [move?, Option.bind_eq_some_iff] at h
    obtain ⟨a, _, ha⟩ := h
    cases a <;> cases ha
  | _ => cases h

theorem Prompt.workspace (h : s.Prompt xs) (hs : s.Answerable) :
    s.workspace.Prompt (s.moves xs) := by
  induction xs generalizing s with
  | nil => exact trivial
  | cons x xs ih =>
    have ht := turn_step hs x
    have hrest := ih h.2 (hs.turn ht)
    rw [ht.workspace] at hrest
    rw [moves]
    cases hm : s.move? x with
    | none =>
      rw [hm] at hrest
      exact hrest
    | some m =>
      rw [hm] at hrest
      refine ⟨fun e he => ?_, hrest⟩
      rw [he] at hm
      obtain ⟨hx, hevents⟩ := handle_of_move? hm
      exact h.1 hx hevents

/-! ## What is on its way -/

/-- One step: when the queue has been handled the workspace will have heard what the session has
reported, as long as the session lasts. -/
theorem Turn.reported {m : Option Move} {r : Server × List Order} (ht : Turn s m r) {h : List Mark}
    (hs : s.phase = .reading → s.session.Reported ((s.workspace.view h).hear s.events)) :
    r.1.phase = .reading → r.1.session.Reported
      ((r.1.workspace.view (h ++ (m.bind s.workspace.mark?).toList)).hear r.1.events) := by
  intro hphase
  cases ht with
  | moved m events answers hevents hanswers =>
    rw [absorb_phase] at hphase
    have hreported := hs hphase
    rw [hevents, View.hear_append] at hreported
    rw [absorb_session, absorb_workspace, absorb_events, Option.bind_some, Workspace.view_move]
    cases he : m.event? with
    | none =>
      rw [he] at hreported
      exact hreported
    | some e =>
      rw [he] at hreported
      exact hreported
  | received input r hr hreading =>
    obtain ⟨_, hsession⟩ := follow_reading _ _ hphase
    rw [hsession, follow_workspace, follow_events, View.hear_append, Option.bind_none,
      Option.toList_none, List.append_nil]
    exact (hs hreading).received hr
  | fired session e hfire =>
    rw [View.hear_append, Option.bind_none, Option.toList_none, List.append_nil]
    exact (hs hphase).fire hfire
  | left r => cases hphase
  | aside s' orders ms hsession hevents hworkspace hanswers hphase' horders =>
    rw [hsession, hevents, hworkspace, Option.bind_none, Option.toList_none, List.append_nil]
    exact (hs (hphase' hphase)).elapse ms

theorem marks_concat (s : Server) (hs : s.Answerable) (xs : List Step) (x : Step) :
    s.marks (xs ++ [x]) = s.marks xs ++
      (((inTurn step s xs).1.move? x).bind (inTurn step s xs).1.workspace.mark?).toList := by
  rw [marks, moves_concat, workspace_inTurn hs]
  cases (inTurn step s xs).1.move? x with
  | none => simp [marks]
  | some m => exact Workspace.marks_concat _ _ m

theorem reported_inTurn (hs : s.Answerable)
    (h : s.phase = .reading → s.session.Reported ((s.workspace.view []).hear s.events))
    (xs : List Step) :
    (inTurn step s xs).1.phase = .reading → (inTurn step s xs).1.session.Reported
      (((inTurn step s xs).1.workspace.view (s.marks xs)).hear (inTurn step s xs).1.events) := by
  induction xs using List.reverseRecOn with
  | nil => exact h
  | append_singleton xs x ih =>
    rw [inTurn_concat, marks_concat s hs]
    exact (turn_step (answerable_inTurn hs xs) x).reported ih

/-! ## The start -/

section Start

variable (settings : Settings) (configPath : Option Path) (installed : Bool)

theorem answerable_start : (start settings configPath installed).1.Answerable :=
  inTurn_keeps (fun _ e h => h.perform e) (fun _ ha => absurd ha List.not_mem_nil) _

theorem workspace_start : (start settings configPath installed).1.workspace =
    .start (Linter.start settings.validator installed).1 :=
  inTurn_same workspace (fun _ e => by cases e <;> rfl) _ _

theorem session_start :
    (start settings configPath installed).1.session = .start settings.quiet :=
  inTurn_same session (fun _ e => by cases e <;> rfl) _ _

theorem events_start : (start settings configPath installed).1.events = [] :=
  inTurn_same events (fun _ e => by cases e <;> rfl) _ _

theorem reported_start : (start settings configPath installed).1.session.Reported
    (((start settings configPath installed).1.workspace.view []).hear
      (start settings configPath installed).1.events) := by
  rw [session_start, events_start, workspace_start]
  exact Session.reported_start settings.quiet

end Start

/-! ## Documents at rest -/

/-- **Issues agree with texts.** The last attempt at a document at rest has its text, and once it
has come to its end its findings are the issues. -/
theorem issues_agree_with_text (settings : Settings) (configPath : Option Path) (installed : Bool)
    (hprompt : (start settings configPath installed).1.Prompt xs)
    {orders : List Order} (hrun : inTurn step (start settings configPath installed).1 xs = (s, orders))
    (hreading : s.phase = .reading) {d : OpenDocument} (hopen : s.session.documents.get? u = some d)
    (htag : d.tag = settings.validator.tag) (hrest : ¬ s.session.Ticking d)
    (hqueue : ∀ e ∈ s.events, ∀ d, e.document? = some d → d.uri ≠ u) :
    let h := (start settings configPath installed).1.marks xs
    ∃ id, LastAsked h id (d.snapshot u) ∧
      (∀ t text, .started id t text ∈ h → text = d.text ∧ t.uri = u ∧ LastStarted h id t text) ∧
      (∀ t run, .ended id t (.ok run) ∈ h →
        s.workspace.linter.publisher.issues? u = some (run.findings.map Issue.ofFinding)) ∧
      ((∀ id' a, s.workspace.linter.attempts.get? id' = some a → a.uri ≠ u) →
        ∃ t o, .started id t d.text ∈ h ∧ .ended id t o ∈ h ∧
          .validate id settings.validator.command d.text ∈ orders) := by
  have hs := answerable_start settings configPath installed
  have hstart := workspace_start settings configPath installed
  have hl : (start settings configPath installed).1.workspace.linter.Orderly := by
    rw [hstart]
    exact Linter.orderly_start _ _
  have hworkspace := workspace_inTurn hs xs
  have hreported := reported_inTurn hs (fun _ => reported_start settings configPath installed) xs
  rw [hrun] at hworkspace hreported
  -- The workspace has heard of the text, and of nothing else about the document since.
  have hheard := View.documents_of_hear hqueue ((hreported hreading).documents u d hopen hrest)
  obtain ⟨⟨id, d'⟩, hasked, rfl : d' = d.snapshot u⟩ := Option.map_eq_some_iff.1 hheard
  have hlatest := Workspace.latest_run hl (hprompt.workspace hs) hasked (by rw [hstart]; exact htag)
  have horderly := Workspace.orderly_run hl ((start settings configPath installed).1.moves xs)
  have htraced := Workspace.traced_run hl ((start settings configPath installed).1.moves xs)
  rw [← hworkspace] at hlatest horderly htraced
  refine ⟨id, (lastAsked_spec hasked).2, fun t text ht => hlatest.started horderly htraced ht,
    fun t run ht => hlatest.applied ht, fun hnone => ?_⟩
  obtain ⟨t, o, hstarted, hended⟩ := hlatest.ended hnone
  have hfed : .validate id settings.validator.command d.text ∈
      (start settings configPath installed).1.workspace.effects
        ((start settings configPath installed).1.moves xs) :=
    (Workspace.validate_mem_effects_iff _ _).2 ⟨by rw [hstart]; rfl, t, hstarted⟩
  have horders := (validate_mem_inTurn_iff hs).2 hfed
  rw [hrun] at horders
  exact ⟨t, o, hstarted, hended, horders⟩

set_option maxRecDepth 4000 in
/-- A document is opened, and edited while the validator runs. The run on the old text comes to its
end last and finds something, but the issues are those of the new text. -/
theorem edited_document_agrees :
    let settings : Settings :=
      ⟨⟨"jsonlint", "npx", "npm", [], ⟨"/tmp"⟩, "json", by decide, by decide, by decide, by decide⟩,
        300⟩
    let opening := "Content-Length:61\n\n\x7b\"method\":\"textDocument/didOpen\"," ++
      "\"params\":[[\"a\",\"json\",\"x\"]]\x7d"
    let edit := "Content-Length:60\n\n\x7b\"method\":\"textDocument/didChange\"," ++
      "\"params\":[[\"a\"],[[\"y\"]]]\x7d"
    let xs : List Step := [.receive (Text.Utf8.encode opening.toList), .read, .handle, .advance 0,
      .lookedUp true, .advance 0, .advance 0, .receive (Text.Utf8.encode edit.toList), .read,
      .elapse 300, .fire, .handle, .advance 1, .advance 1, .advance 1, .ended 1 (.ok ⟨true, ""⟩),
      .ended 0 (.ok ⟨false, "1:1 - x"⟩)]
    let h := (start settings none true).1.marks xs
    ∃ id t o, LastAsked h id ⟨⟨"a"⟩, "json", "y"⟩ ∧ .started id t "y" ∈ h ∧ .ended id t o ∈ h ∧
      ∀ run, o = .ok run →
        (inTurn step (start settings none true).1 xs).1.workspace.linter.publisher.issues? ⟨"a"⟩ =
          some (run.findings.map Issue.ofFinding) := by
  intro settings opening edit xs h
  have hprompt : (start settings none true).1.Prompt xs := by
    refine ⟨nofun, nofun, fun _ _ => Linter.calm_of_values ?_, nofun, nofun, nofun, nofun, nofun,
      nofun, nofun, nofun, fun _ _ => Linter.calm_of_values ?_, nofun, nofun, nofun, nofun, nofun,
      trivial⟩
    · decide +kernel
    · decide +kernel
  have hend : (inTurn step (start settings none true).1 xs).1.phase = .reading ∧
      (inTurn step (start settings none true).1 xs).1.session.documents.get? ⟨"a"⟩ =
        some ⟨⟨1⟩, "json", "y", some 0⟩ ∧
      (inTurn step (start settings none true).1 xs).1.session.timers = [] ∧
      (inTurn step (start settings none true).1 xs).1.events = [] ∧
      (inTurn step (start settings none true).1 xs).1.workspace.linter.attempts.values = [] := by
    decide +kernel
  rcases hrun : inTurn step (start settings none true).1 xs with ⟨s, orders⟩
  rw [hrun] at hend
  obtain ⟨hreading, hopen, htimers, hevents, hattempts⟩ := hend
  obtain ⟨id, hasked, _, hissues, hover⟩ := issues_agree_with_text settings none true hprompt hrun
    hreading hopen rfl (fun ⟨t, ht, _⟩ => absurd (htimers ▸ ht) List.not_mem_nil)
    fun e he => absurd (hevents ▸ he) List.not_mem_nil
  obtain ⟨t, o, hstarted, hended, _⟩ := hover fun id a hget => absurd
    (hattempts ▸ (Table.mem_values_iff _ a).2 ⟨id, hget⟩) List.not_mem_nil
  exact ⟨id, t, o, hasked, hstarted, hended, fun run ho => hissues t run (ho ▸ hended)⟩

end Server

end LintServer
