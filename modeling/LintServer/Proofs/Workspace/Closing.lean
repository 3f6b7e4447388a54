import LintServer.Proofs.Linter.Removal
import LintServer.Proofs.Workspace.Moves

/-!
# Closed documents

The issues of a document go with its last editor, and the tickets of its runs become stale. An
attempt that has been asked for before but has not taken its ticket by then is not stopped: it takes
one later, and what it finds is published although nobody shows the document any more.

* `Workspace.LastOn`, `Lawful`, `NotReopened`: the closing of a document, and the runs after it;
* `removed_run`, `calm_run`: without a run that starts late the document does not come back;
* `mayComplete_of_not_calm`: an attempt that may still start can have its findings published;
* **`published_after_closing_iff`**: when issues of a closed document are published.
-/

namespace LintServer.Workspace

variable {w : Workspace} {m : Move} {ms : List Move} {e : EditorId} {u : Uri}

/-- A document is shown by this editor and no other. -/
def LastOn (w : Workspace) (e : EditorId) (u : Uri) : Prop :=
  w.editors.get? e = some u ∧ ∀ e', w.editors.get? e' = some u → e' = e

/-- Whether a session can cause a move: an editor that is added is new, and one that comes to rest
or changes its syntax shows the document it is said to show. -/
def Allows (w : Workspace) : Move → Prop
  | .event (.added e _) => w.editors.get? e = none
  | .event (.settled e d) => w.editors.get? e = some d.uri
  | .event (.retagged e d) => w.editors.get? e = some d.uri
  | _ => True

/-- Every move is one that a session can cause. -/
abbrev Lawful (w : Workspace) (ms : List Move) : Prop := w.Along Allows ms

/-- No editor is added on a document. -/
def NotReopened (u : Uri) (ms : List Move) : Prop := ∀ e d, .event (.added e d) ∈ ms → d.uri ≠ u

/-! ## The closing -/

theorem action?_destroyed (h : w.LastOn e u) :
    w.action? (.event (.destroyed e)) = some (.retract u) := by
  have hclosed : (w.editors.erase e).values.contains u = false := by
    rw [Bool.eq_false_iff, Ne, List.contains_iff_mem, Table.mem_values_iff]
    rintro ⟨e', he'⟩
    rw [Table.get?_erase] at he'
    split_ifs at he' with hne
    exact hne (h.2 e' he')
  simp only [action?, EditorEvent.action?, h.1, hclosed, Bool.false_eq_true, if_false]

theorem move_destroyed (h : w.LastOn e u) :
    w.move (.event (.destroyed e)) =
      ({ linter := (w.linter.step (.retract u)).1, editors := w.editors.erase e },
        (w.linter.step (.retract u)).2) := by
  rw [move_eq, action?_destroyed h]
  rfl

theorem lastOn_added (l : Linter) (e : EditorId) (d : Document) :
    ((start l).run [.event (.added e d)]).LastOn e d.uri := by
  have hget : ∀ e', ((start l).run [.event (.added e d)]).editors.get? e' =
      if e' = e then some d.uri else none := fun e' => Table.get?_insert _ _ _ _
  refine ⟨by rw [hget, if_pos rfl], fun e' he' => ?_⟩
  rw [hget] at he'
  split_ifs at he' with hone
  exact hone

/-- No editor shows a document. -/
def Unshown (w : Workspace) (u : Uri) : Prop := ∀ e, w.editors.get? e ≠ some u

theorem unshown_destroyed (h : w.LastOn e u) : (w.move (.event (.destroyed e))).1.Unshown u := by
  intro e' he'
  rw [move_destroyed h] at he'
  simp only [Table.get?_erase] at he'
  split_ifs at he' with hne
  exact hne (h.2 e' he')

theorem Unshown.move (h : w.Unshown u) (hm : ∀ e d, m = .event (.added e d) → d.uri ≠ u) :
    (w.move m).1.Unshown u := by
  intro e' he'
  rw [editors_move] at he'
  cases m with
  | event e =>
    cases e with
    | added e d =>
      simp only [editorsAfter, EditorEvent.editorsAfter, Table.get?_insert] at he'
      split_ifs at he'
      · exact hm e d rfl (Option.some.inj he')
      · exact h e' he'
    | destroyed e =>
      simp only [editorsAfter, EditorEvent.editorsAfter, Table.get?_erase] at he'
      split_ifs at he'
      exact h e' he'
    | settled e d => exact h e' he'
    | retagged e d => exact h e' he'
  | _ => exact h e' he'

theorem unshown_run (h : w.Unshown u) (hms : NotReopened u ms) : (w.run ms).Unshown u := by
  induction ms using List.reverseRecOn with
  | nil => exact h
  | append_singleton ms m ih =>
    rw [run_concat]
    refine (ih fun e d hm => hms e d (List.mem_append_left _ hm)).move fun e d hm => ?_
    exact hms e d (hm ▸ List.mem_append_right _ List.mem_cons_self)

/-! ## Afterwards -/

/-- **A closed document comes back only by a run that starts late.** -/
theorem removed_run (hl : w.linter.Orderly) (hr : w.linter.Removed [] [] u) (hu : w.Unshown u)
    (hms : NotReopened u ms) : (w.run ms).linter.Removed (w.marks ms) (w.notices ms) u := by
  induction ms using List.reverseRecOn with
  | nil => exact hr
  | append_singleton ms m ih =>
    have hms' : NotReopened u ms := fun e d hm => hms e d (List.mem_append_left _ hm)
    rw [run_concat, marks_concat, notices_concat]
    refine (ih hms').change (orderly_run hl ms) (change_move _ m) (fun findings hm => ?_)
      fun hm => ?_
    · exact move_of_mark hm
    · obtain ⟨e, _, he, _⟩ := move_of_mark hm
      exact unshown_run hu hms' e he

theorem calm_run (hu : w.Unshown u) (hcalm : w.linter.Calm u) (hlawful : w.Lawful ms)
    (hms : NotReopened u ms) :
    (w.run ms).linter.Calm u ∧ ∀ t ∈ startedIn (w.marks ms), t.uri ≠ u := by
  induction ms using List.reverseRecOn with
  | nil => exact ⟨hcalm, fun t ht => absurd ht List.not_mem_nil⟩
  | append_singleton ms m ih =>
    have hms' : NotReopened u ms := fun e d hm => hms e d (List.mem_append_left _ hm)
    obtain ⟨hlawful', hallows⟩ := along_concat.1 hlawful
    obtain ⟨hcalm', hstarted⟩ := ih hlawful' hms'
    have hasked : ∀ id d, (w.run ms).mark? m = some (.asked id d) → d.uri ≠ u := by
      intro id d hm hd
      obtain ⟨_, e, rfl, hdoc⟩ := move_of_mark hm
      cases e with
      | added e d' =>
        cases hdoc
        exact hms e d (List.mem_append_right _ List.mem_cons_self) hd
      | settled e d' =>
        cases hdoc
        exact unshown_run hu hms' e (hd ▸ hallows)
      | retagged e d' =>
        cases hdoc
        exact unshown_run hu hms' e (hd ▸ hallows)
      | destroyed e => cases hdoc
    obtain ⟨hcalm'', hnot⟩ := hcalm'.change (change_move _ m) (settings_move _ m) hasked
    rw [run_concat, marks_concat]
    refine ⟨hcalm'', fun t ht => ?_⟩
    rcases mem_startedIn_append.1 ht with ht | ⟨id, x, hm⟩
    · exact hstarted t ht
    · exact hnot id t x hm

/-! ## A late run -/

/-- Without any event a run on a document can start and come to its end. -/
def MayComplete (w : Workspace) (u : Uri) : Prop :=
  ∃ ms, (∀ m ∈ ms, ∀ e, m ≠ .event e) ∧
    ∃ t ∈ startedIn (w.marks ms), t.uri = u ∧ t ∈ completedIn (w.marks ms)

theorem MayComplete.of_move (h : (w.move m).1.MayComplete u) (hm : ∀ e, m ≠ .event e) :
    w.MayComplete u := by
  obtain ⟨ms, hms, t, hs, hu, hc⟩ := h
  refine ⟨m :: ms, fun m' hm' => ?_, t, ?_, hu, ?_⟩
  · rcases List.mem_cons.1 hm' with rfl | hm'
    · exact hm
    · exact hms m' hm'
  · rw [marks, startedIn_append]
    exact List.mem_append_right _ hs
  · rw [marks, completedIn_append]
    exact List.mem_append_right _ hc

variable {id : Nat} {text : String}

theorem mark?_advance (hget : w.linter.attempts.get? id = some ⟨u, text, .cleared⟩) :
    w.mark? (.advance id) = some (.started id (w.linter.publisher.begin u).2 text) := by
  simp only [mark?, action?, Option.bind_some, Linter.mark?, hget]

theorem mayComplete_of_cleared (hget : w.linter.attempts.get? id = some ⟨u, text, .cleared⟩) :
    w.MayComplete u := by
  have hstarted := mark?_advance hget
  have hrunning : (w.move (.advance id)).1.linter.attempts.get? id =
      some ⟨u, text, .running (w.linter.publisher.begin u).2⟩ := by
    simp [move, act, Linter.step, Linter.advance, hget, Linter.launch, Linter.setStage]
  have hended : (w.move (.advance id)).1.mark? (.ended id (.ok ⟨true, ""⟩)) =
      some (.ended id (w.linter.publisher.begin u).2 (.ok ⟨true, ""⟩)) := by
    simp only [mark?, action?, Option.bind_some, Linter.mark?, hrunning]
  refine ⟨[.advance id, .ended id (.ok ⟨true, ""⟩)], by simp, (w.linter.publisher.begin u).2, ?_,
    rfl, ?_⟩
  · simp [marks, hstarted, hended, startedIn, Mark.started?]
  · simp [marks, hstarted, hended, completedIn, Mark.completed?]

theorem mayComplete_of_waiting (hget : w.linter.attempts.get? id = some ⟨u, text, .waiting⟩)
    (hasked : w.linter.lookup ≠ .unasked) : w.MayComplete u := by
  -- The answer comes first, then the attempt goes on.
  refine MayComplete.of_move (m := .lookedUp true) ?_ (by simp)
  have hget' : (w.move (.lookedUp true)).1.linter.attempts.get? id = some ⟨u, text, .waiting⟩ := by
    simp only [move, act, Linter.step]
    split_ifs <;> exact hget
  have hanswered : ∃ found, (w.move (.lookedUp true)).1.linter.lookup = .answered found := by
    simp only [move, act, Linter.step]
    cases hlookup : w.linter.lookup with
    | unasked => exact absurd hlookup hasked
    | asked => exact ⟨true, by simp⟩
    | answered found => exact ⟨found, by simp [hlookup]⟩
  obtain ⟨found, hfound⟩ := hanswered
  have hcleared : ((w.move (.lookedUp true)).1.move (.advance id)).1.linter.attempts.get? id =
      some ⟨u, text, .cleared⟩ := by
    rw [show ∀ w : Workspace, (w.move (.advance id)).1.linter = (w.linter.advance id).1 from
      fun _ => rfl]
    simp only [Linter.advance, hget', hfound, Linter.warnOnce]
    split_ifs <;> simp [Linter.setStage]
  exact MayComplete.of_move (m := .advance id) (mayComplete_of_cleared hcleared) (by simp)

theorem mayComplete_of_fresh
    (hget : w.linter.attempts.get? id = some ⟨u, text, .fresh w.linter.settings.tag⟩) :
    w.MayComplete u := by
  have hlookup : (w.move (.advance id)).1.linter.lookup ≠ .unasked := by
    simp only [move, act, Linter.step, Linter.advance, hget, if_true, Linter.askOnce]
    split
    · simp [Linter.setStage]
    · assumption
  have hwaiting : (w.move (.advance id)).1.linter.attempts.get? id = some ⟨u, text, .waiting⟩ := by
    simp only [move, act, Linter.step, Linter.advance, hget, if_true, Linter.askOnce]
    split <;> simp [Linter.setStage]
  exact MayComplete.of_move (mayComplete_of_waiting hwaiting hlookup) (by simp)

/-- An attempt that may still start can come to its end. -/
theorem mayComplete_of_not_calm (hasked : w.linter.Asked) (h : ¬ w.linter.Calm u) :
    w.MayComplete u := by
  simp only [Linter.Calm, not_forall, not_not] at h
  obtain ⟨id, ⟨v, text, stage⟩, hget, rfl, hmay⟩ := h
  cases stage with
  | fresh tag =>
    obtain rfl : tag = w.linter.settings.tag := hmay
    exact mayComplete_of_fresh hget
  | waiting => exact mayComplete_of_waiting hget (hasked id v text hget)
  | cleared => exact mayComplete_of_cleared hget
  | running t => exact hmay.elim

theorem lawful_of_no_event (hms : ∀ m ∈ ms, ∀ e, m ≠ .event e) : w.Lawful ms := by
  induction ms generalizing w with
  | nil => exact trivial
  | cons m ms ih =>
    refine ⟨?_, ih fun m hm => hms m (List.mem_cons_of_mem _ hm)⟩
    cases m with
    | event e => exact absurd rfl (hms _ List.mem_cons_self e)
    | _ => exact trivial

/-! ## When issues of a closed document are published -/

/-- **When issues of a closed document are published**: exactly if a run that started after the
closing has come to its end. One can exactly if some attempt had not taken its ticket by then. -/
theorem published_after_closing_iff (s : ValidatorSettings) (installed : Bool) (before : List Move)
    (e : EditorId) (u : Uri)
    (hlast : ((start (Linter.start s installed).1).run before).LastOn e u) :
    let r := ((start (Linter.start s installed).1).run before).move (.event (.destroyed e))
    let w := r.1
    (w.linter.publisher.issues? u = none ∧ ∀ issues, .publish u issues ∉ Effect.notices r.2) ∧
    (∀ ms, NotReopened u ms →
      ((∃ issues, .publish u issues ∈ w.notices ms) ↔
        ∃ t ∈ startedIn (w.marks ms), t.uri = u ∧ t ∈ completedIn (w.marks ms)) ∧
      (((w.run ms).linter.publisher.issues? u).isSome ↔
        ∃ issues, .publish u issues ∈ w.notices ms)) ∧
    ((∀ ms, w.Lawful ms → NotReopened u ms → ∀ issues, .publish u issues ∉ w.notices ms) ↔
      ∀ id a, w.linter.attempts.get? id = some a → a.uri = u → ¬ a.MayStart s.tag) := by
  intro r w
  have hr : r = _ := move_destroyed hlast
  have horderly : w.linter.Orderly := by
    have := orderly_run (w := start (Linter.start s installed).1)
      (Linter.orderly_start s installed) (before ++ [.event (.destroyed e)])
    rwa [run_concat] at this
  have hasked : w.linter.Asked := by
    have := asked_run (w := start (Linter.start s installed).1)
      (fun id u text hget => by cases hget) (before ++ [.event (.destroyed e)])
    rwa [run_concat] at this
  have hsettings : w.linter.settings = s := by
    rw [show w.linter.settings = _ from settings_move _ _, settings_run]
    rfl
  have hremoved : w.linter.Removed [] [] u :=
    Linter.removed_retract (orderly_run (Linter.orderly_start s installed) before)
      (by rw [show w = r.1 from rfl, hr]; rfl) (by rw [show w = r.1 from rfl, hr]; rfl)
  have hunshown : w.Unshown u := unshown_destroyed hlast
  have hiff : ∀ ms, NotReopened u ms → ((∃ issues, .publish u issues ∈ w.notices ms) ↔
      ∃ t ∈ startedIn (w.marks ms), t.uri = u ∧ t ∈ completedIn (w.marks ms)) :=
    fun ms hms => (removed_run horderly hremoved hunshown hms).told.trans
      (removed_run horderly hremoved hunshown hms).tracked
  refine ⟨⟨?_, fun issues hmem => ?_⟩, fun ms hms => ⟨hiff ms hms, ?_⟩, fun hnone => ?_,
    fun hcalm ms hlawful hms issues hmem => ?_⟩
  · by_contra hsome
    obtain ⟨issues, hmem⟩ := hremoved.told.2 (Option.isSome_iff_ne_none.2 hsome)
    exact absurd hmem List.not_mem_nil
  · rw [hr] at hmem
    simp only [Linter.step, Effect.notices_map_tell, Publisher.retract] at hmem
    split_ifs at hmem
    · cases List.mem_singleton.1 hmem
    · exact absurd hmem List.not_mem_nil
  · exact (removed_run horderly hremoved hunshown hms).told.symm
  · by_contra hnot
    obtain ⟨ms, hms, hlate⟩ := mayComplete_of_not_calm (u := u) hasked
      (by rwa [Linter.Calm, hsettings])
    have hreopen : NotReopened u ms := fun e d hm => absurd rfl (hms _ hm _)
    obtain ⟨issues, hmem⟩ := (hiff ms hreopen).2 hlate
    exact hnone ms (lawful_of_no_event hms) hreopen issues hmem
  · obtain ⟨t, hstarted, hu, _⟩ := (hiff ms hms).1 ⟨issues, hmem⟩
    refine (calm_run hunshown ?_ hlawful hms).2 t hstarted hu
    rwa [Linter.Calm, hsettings]

/-- A document is opened and closed again before its attempt has gone on at all. Its issues are
published afterwards. -/
theorem late_run_published_after_closing :
    let s : ValidatorSettings :=
      ⟨"jsonlint", "npx", "npm", [], ⟨"/tmp"⟩, "json", by decide, by decide, by decide, by decide⟩
    let u : Uri := ⟨"a"⟩
    let before : List Move := [.event (.added ⟨1⟩ ⟨u, "json", "x"⟩)]
    let w := (((start (Linter.start s true).1).run before).move (.event (.destroyed ⟨1⟩))).1
    let ms : List Move := [.advance 0, .lookedUp true, .advance 0, .advance 0,
      .ended 0 (.ok ⟨true, ""⟩)]
    ((start (Linter.start s true).1).run before).LastOn ⟨1⟩ u ∧ NotReopened u ms ∧
      ∃ issues, .publish u issues ∈ w.notices ms := by
  intro s u before w ms
  have hlast : ((start (Linter.start s true).1).run before).LastOn ⟨1⟩ u :=
    lastOn_added _ ⟨1⟩ ⟨u, "json", "x"⟩
  have hms : NotReopened u ms := fun e d hm => by simp [ms] at hm
  refine ⟨hlast, hms, ?_⟩
  exact ((published_after_closing_iff s true before ⟨1⟩ u hlast).2.1 ms hms).1.2
    ⟨⟨u, 1⟩, by decide, rfl, by decide⟩

/-- A closed document is not silent, although its editor was new and only shown the one document. -/
theorem closed_document_not_silent :
    ¬ ∀ (s : ValidatorSettings) (installed : Bool) (before : List Move) (e : EditorId) (u : Uri),
      (start (Linter.start s installed).1).Lawful before →
      ((start (Linter.start s installed).1).run before).LastOn e u →
      let w := (((start (Linter.start s installed).1).run before).move (.event (.destroyed e))).1
      ∀ ms, w.Lawful ms → NotReopened u ms →
        (∀ issues, .publish u issues ∉ w.notices ms) ∧
          (w.run ms).linter.publisher.issues? u = none := by
  intro h
  let s : ValidatorSettings :=
    ⟨"jsonlint", "npx", "npm", [], ⟨"/tmp"⟩, "json", by decide, by decide, by decide, by decide⟩
  have hlawful : (start (Linter.start s true).1).Lawful
      [.event (.added ⟨1⟩ ⟨⟨"a"⟩, "json", "x"⟩)] := ⟨rfl, trivial⟩
  have hlast := lastOn_added (Linter.start s true).1 ⟨1⟩ ⟨⟨"a"⟩, "json", "x"⟩
  have hnone := (h s true _ ⟨1⟩ ⟨"a"⟩ hlawful hlast [.advance 0, .lookedUp true, .advance 0,
    .advance 0, .ended 0 (.ok ⟨true, ""⟩)] ⟨trivial, trivial, trivial, trivial, trivial, trivial⟩
    fun e d hm => by simp at hm).2
  revert hnone
  decide

end LintServer.Workspace
