import LintServer.Proofs.Linter.Excerpt
import LintServer.Proofs.Workspace.Moves

/-!
# Documents of other syntax

A document whose syntax is not the one of the linter is registered while an editor shows it, and
that is all. Events that ask for a check of it can be left out, and its text can be any other:
nobody outside can tell, although the attempts that are left have other numbers.

* `EditorEvent.isKept`, `EditorEvent.veil`: which events stay, and with which text;
* `Veil`, `Veil.moves`: the moves that stay, with the new numbers of their attempts;
* `Veil.Shows`, `Veil.Follows`: a workspace and what is left of it, and what comes of their moves;
* **`Veil.follows_move`**, `Veil.shows_run`: one move of both, and a run;
* `Overlooked`, `overlooked_move`: the moves for documents of other syntax;
* `foreign_document_silent`: a document that has been of other syntax all the time;
* **`other_syntax_unseen`**: nobody outside can tell.
-/

namespace LintServer

namespace EditorEvent

/-- Whether an event has to stay. Editors are registered whatever their document is. -/
def isKept (tag : String) : EditorEvent → Bool
  | added _ _ => true
  | settled _ d => d.tag = tag
  | retagged _ d => d.tag = tag
  | destroyed _ => true

/-- An event with another text, if its document has another syntax. -/
def veil (tag text : String) : EditorEvent → EditorEvent
  | added e d => added e (if d.tag = tag then d else { d with text })
  | e => e

end EditorEvent

namespace Workspace

/-- How many attempts have been asked for, and which of them stay. -/
structure Veil where
  asked : Nat
  kept : List Nat

namespace Veil

/-- The new number of an attempt that stays. -/
def number? (v : Veil) (id : Nat) : Option Nat :=
  if id ∈ v.kept then some (v.kept.idxOf id) else none

/-- What is left of a move, with a new text for a document of another syntax. -/
def move? (v : Veil) (tag text : String) : Move → Option Move
  | .event e => if e.isKept tag then some (.event (e.veil tag text)) else none
  | .advance id => (v.number? id).map .advance
  | .ended id outcome => (v.number? id).map fun id => .ended id outcome
  | m => some m

/-- What is known of the attempts after a move. -/
def after (v : Veil) (tag : String) : Move → Veil
  | .event e =>
    match e.document? with
    | none => v
    | some _ => ⟨v.asked + 1, if e.isKept tag then v.kept ++ [v.asked] else v.kept⟩
  | _ => v

/-- What is left of some moves. There is a new text for each attempt. -/
def moves (v : Veil) (tag : String) (texts : Nat → String) : List Move → List Move
  | [] => []
  | m :: ms => (v.move? tag (texts v.asked) m).toList ++ moves (v.after tag m) tag texts ms

/-- What is known of the attempts after some moves. -/
def afterAll (v : Veil) (tag : String) (ms : List Move) : Veil :=
  ms.foldl (fun v m => v.after tag m) v

/-- A workspace and what is left of it: the attempts that stay. -/
def Shows (v : Veil) (w w' : Workspace) : Prop :=
  v.asked = w.linter.next ∧ ∃ attempts,
    w' = ⟨w.linter.withAttempts attempts v.kept.length, w.editors⟩ ∧
      Linter.Excerpt w.linter.settings.tag v.kept w.linter.next w.linter.attempts attempts

/-- What comes of a move of a workspace, and what of the move that is left of it. -/
def Follows (v v' : Veil) (r r' : Workspace × List Effect) : Prop :=
  v'.Shows r.1 r'.1 ∧ ∀ f : Nat → Nat, (∀ id ∈ v.kept, f id = v.kept.idxOf id) →
    r'.2 = r.2.map (Effect.renumber f)

variable {v : Veil} {w w' : Workspace}

theorem run_toList (w : Workspace) (o : Option Move) :
    w.run o.toList = (o.elim (w, []) w.move).1 := by
  cases o <;> rfl

theorem effects_toList (w : Workspace) (o : Option Move) :
    w.effects o.toList = (o.elim (w, []) w.move).2 := by
  cases o with
  | none => rfl
  | some m => exact List.append_nil _

theorem shows_start (s : ValidatorSettings) (installed : Bool) :
    Shows ⟨0, []⟩ (start (Linter.start s installed).1) (start (Linter.start s installed).1) :=
  ⟨rfl, .empty, rfl, Linter.excerpt_empty _ _⟩

theorem kept_after (v : Veil) (tag : String) (m : Move) : v.kept <+: (v.after tag m).kept := by
  cases m with
  | event e =>
    simp only [after]
    split
    · exact List.prefix_rfl
    · split_ifs
      · exact List.prefix_append _ _
      · exact List.prefix_rfl
  | _ => exact List.prefix_rfl

theorem kept_afterAll (v : Veil) (tag : String) (ms : List Move) :
    v.kept <+: (v.afterAll tag ms).kept := by
  induction ms generalizing v with
  | nil => exact List.prefix_rfl
  | cons m ms ih => exact (kept_after v tag m).trans (ih _)

theorem follows_check (h : v.Shows w w') {d d' : Document} (huri : d'.uri = d.uri)
    (htag : d'.tag = d.tag) (htext : d.tag = w.linter.settings.tag → d'.text = d.text)
    (editors : Table EditorId Uri) : Follows v ⟨v.asked + 1, v.kept ++ [v.asked]⟩
      ((⟨w.linter, editors⟩ : Workspace).act (.check d))
      ((⟨w'.linter, editors⟩ : Workspace).act (.check d')) := by
  obtain ⟨hasked, attempts, rfl, hx⟩ := h
  obtain ⟨u, t, text⟩ := d
  obtain ⟨u', t', text'⟩ := d'
  simp only at huri htag htext
  subst huri htag
  refine ⟨⟨congrArg Nat.succ hasked, attempts.insert v.kept.length ⟨u', text', .fresh t'⟩, ?_, ?_⟩,
    fun f _ => rfl⟩
  · rw [List.length_append]
    rfl
  · rw [hasked]
    refine hx.ask ?_
    by_cases ht : t' = w.linter.settings.tag
    · rw [htext ht]
      exact .same _
    · exact .foreign ⟨t', rfl, ht⟩ ⟨t', rfl, ht⟩

theorem follows_left_out (h : v.Shows w w') {d : Document}
    (htag : d.tag ≠ w.linter.settings.tag) :
    Follows v ⟨v.asked + 1, v.kept⟩ (w.act (.check d)) (w', []) := by
  obtain ⟨hasked, attempts, rfl, hx⟩ := h
  exact ⟨⟨congrArg Nat.succ hasked, attempts, rfl, hx.pass ⟨d.tag, rfl, htag⟩⟩, fun f _ => rfl⟩

theorem follows_apart (h : v.Shows w w') {a : Action} (ha : a.apart = true)
    (editors : Table EditorId Uri) : Follows v v
      ((⟨w.linter, editors⟩ : Workspace).act a) ((⟨w'.linter, editors⟩ : Workspace).act a) := by
  obtain ⟨hasked, attempts, rfl, hx⟩ := h
  obtain ⟨hattempts, hnext, heffects, hstep⟩ := Linter.step_apart ha w.linter
  rw [Follows, act, act, hstep]
  refine ⟨⟨hasked.trans hnext.symm, attempts, rfl, ?_⟩, fun f _ => (heffects f).symm⟩
  rw [hattempts, hnext, Linter.settings_step]
  exact hx

theorem follows_turn (h : v.Shows w w') (a : Nat → Action)
    (hturn : Linter.Local fun l id => l.step (a id)) (id : Nat) :
    Follows v v (w.act (a id)) ((v.number? id).elim (w', []) fun i => w'.act (a i)) := by
  obtain ⟨hasked, attempts, rfl, hx⟩ := h
  simp only [number?]
  by_cases hmem : id ∈ v.kept
  · have hi := List.getElem?_idxOf hmem
    have hf : ∀ f : Nat → Nat, (∀ id ∈ v.kept, f id = v.kept.idxOf id) → ∃ attempts'', _ :=
      fun f hf => hturn.of_mem hx hi (hf id hmem) v.kept.length
    rw [if_pos hmem]
    refine ⟨?_, fun f hid => ?_⟩
    · obtain ⟨attempts'', hstep, hnext, hx'⟩ := hf v.kept.idxOf fun _ _ => rfl
      refine ⟨hasked.trans hnext.symm, attempts'', ?_, ?_⟩
      · simp only [Option.elim, act, hstep]
      · simp only [act, Linter.settings_step] at hnext ⊢
        rwa [hnext]
    · obtain ⟨attempts'', hstep, -, -⟩ := hf f hid
      simp only [Option.elim, act, hstep]
  · rw [if_neg hmem]
    obtain ⟨attempts'', hstep, hx'⟩ := hturn.of_not_mem hx hmem
    rw [Follows, act, hstep]
    exact ⟨⟨hasked, attempts, rfl, hx'⟩, fun f _ => rfl⟩

theorem shows_editors (h : v.Shows w w') (editors : Table EditorId Uri) :
    v.Shows ⟨w.linter, editors⟩ ⟨w'.linter, editors⟩ := by
  obtain ⟨hasked, attempts, rfl, hx⟩ := h
  exact ⟨hasked, attempts, rfl, hx⟩

theorem follows_close (h : v.Shows w w') (heditors : w'.editors = w.editors) (e : EditorId) :
    Follows v v (w.close e) (w'.close e) := by
  simp only [close, heditors]
  cases w.editors.get? e with
  | none => exact ⟨h, fun f _ => rfl⟩
  | some u =>
    cases hopen : (w.editors.erase e).values.contains u with
    | true =>
      simp only [isOpen, hopen, if_true]
      exact ⟨shows_editors h _, fun f _ => rfl⟩
    | false =>
      simp only [isOpen, hopen, Bool.false_eq_true, if_false]
      exact follows_apart h rfl _

theorem follows_event (h : v.Shows w w') (heditors : w'.editors = w.editors) (e : EditorEvent)
    (text : String) : Follows v (v.after w.linter.settings.tag (.event e)) (w.handle e)
      ((v.move? w.linter.settings.tag text (.event e)).elim (w', []) w'.move) := by
  obtain ⟨linter', editors'⟩ := w'
  obtain rfl : editors' = w.editors := heditors
  cases e with
  | added e d =>
    by_cases htag : d.tag = w.linter.settings.tag
    · simp only [move?, EditorEvent.isKept, EditorEvent.veil, if_pos htag, if_true, Option.elim]
      exact follows_check h rfl rfl (fun _ => rfl) _
    · simp only [move?, EditorEvent.isKept, EditorEvent.veil, if_neg htag, if_true, Option.elim]
      have huri : (⟨d.uri, d.tag, text⟩ : Document).uri = d.uri := rfl
      exact follows_check h huri rfl (fun hd => absurd hd htag) _
  | settled e d =>
    by_cases htag : d.tag = w.linter.settings.tag
    · simp only [move?, after, EditorEvent.document?, EditorEvent.isKept, EditorEvent.veil, htag,
        decide_true, if_true, Option.elim]
      exact follows_check h rfl rfl (fun _ => rfl) _
    · simp only [move?, after, EditorEvent.document?, EditorEvent.isKept, htag, decide_false,
        Bool.false_eq_true, if_false, Option.elim]
      exact follows_left_out h htag
  | retagged e d =>
    by_cases htag : d.tag = w.linter.settings.tag
    · simp only [move?, after, EditorEvent.document?, EditorEvent.isKept, EditorEvent.veil, htag,
        decide_true, if_true, Option.elim]
      exact follows_check h rfl rfl (fun _ => rfl) _
    · simp only [move?, after, EditorEvent.document?, EditorEvent.isKept, htag, decide_false,
        Bool.false_eq_true, if_false, Option.elim]
      exact follows_left_out h htag
  | destroyed e => exact follows_close h rfl e

/-- **One move** of a workspace and what is left of it. Nobody outside can tell the difference but
by the numbers of the attempts. -/
theorem follows_move (h : v.Shows w w') (m : Move) (text : String) :
    Follows v (v.after w.linter.settings.tag m) (w.move m)
      ((v.move? w.linter.settings.tag text m).elim (w', []) w'.move) := by
  have heditors : w'.editors = w.editors := by
    obtain ⟨-, attempts, rfl, -⟩ := h
    rfl
  obtain ⟨linter', editors'⟩ := w'
  subst heditors
  cases m with
  | event e => exact follows_event h rfl e text
  | advance id =>
    have hturn := follows_turn h .advance Linter.local_advance id
    rw [move?, Option.elim_map]
    exact hturn
  | ended id outcome =>
    have hturn := follows_turn h (fun id => .ended id outcome) (Linter.local_settle outcome) id
    rw [move?, Option.elim_map]
    exact hturn
  | lookedUp found => exact follows_apart h rfl w.editors
  | answered choice => exact follows_apart h rfl w.editors
  | configShown r => exact follows_apart h rfl w.editors
  | installed r => exact follows_apart h rfl w.editors

/-- **A run** of a workspace and what is left of it. -/
theorem shows_run (h : v.Shows w w') (texts : Nat → String) (ms : List Move) :
    (v.afterAll w.linter.settings.tag ms).Shows (w.run ms)
        (w'.run (v.moves w.linter.settings.tag texts ms)) ∧
      ∀ f : Nat → Nat, (∀ id ∈ (v.afterAll w.linter.settings.tag ms).kept,
          f id = (v.afterAll w.linter.settings.tag ms).kept.idxOf id) →
        w'.effects (v.moves w.linter.settings.tag texts ms) =
          (w.effects ms).map (Effect.renumber f) := by
  induction ms generalizing v w w' with
  | nil => exact ⟨h, fun f _ => rfl⟩
  | cons m ms ih =>
    obtain ⟨hshows, heffects⟩ := follows_move h m (texts v.asked)
    obtain ⟨hrun, hall⟩ := ih hshows
    rw [settings_move] at hrun hall
    rw [moves, run_append, effects_append, run_toList, effects_toList]
    refine ⟨hrun, fun f hf => ?_⟩
    rw [hall f hf, effects, List.map_append, heffects f fun id hid => ?_]
    -- The places of the attempts that have been kept so far are not going to change.
    obtain ⟨later, hlater⟩ := kept_afterAll v w.linter.settings.tag (m :: ms)
    rw [hf id (hlater ▸ List.mem_append_left _ hid), ← List.idxOf_append_of_mem hid, hlater]

end Veil

/-! ## Moves for documents of other syntax -/

/-- A move is for a document of another syntax: it is such an event, or the turn of an attempt that
has been asked for by one. -/
def Overlooked (tag : String) (h : List Mark) : Move → Prop
  | .event e => ∃ d, e.document? = some d ∧ d.tag ≠ tag
  | .advance id => ∃ d, .asked id d ∈ h ∧ d.tag ≠ tag
  | .ended id _ => ∃ d, .asked id d ∈ h ∧ d.tag ≠ tag
  | _ => False

/-- An attempt at a document of another syntax is going to be passed over until it is gone. -/
theorem foreign_of_asked {w : Workspace} (hl : w.linter.Orderly) {ms : List Move} {id : Nat}
    {d : Document} (hm : .asked id d ∈ w.marks ms) (htag : d.tag ≠ w.linter.settings.tag) :
    id < (w.run ms).linter.next ∧ ∀ a, (w.run ms).linter.attempts.get? id = some a →
      a.Foreign w.linter.settings.tag := by
  induction ms using List.reverseRecOn with
  | nil => cases hm
  | append_singleton ms m ih =>
    have hc := change_move (w.run ms) m
    have hsettings := settings_run w ms
    rw [marks_concat, List.mem_append, Option.mem_toList] at hm
    rw [run_concat]
    rcases hm with hm | hm
    · obtain ⟨hlt, hforeign⟩ := ih hm
      refine ⟨Nat.lt_of_lt_of_le hlt (Linter.next_le hc), fun a hget => ?_⟩
      rw [← hsettings] at hforeign ⊢
      refine Linter.foreign_change hc hget (fun d hm' => ?_) fun a' hget' _ => hforeign a' hget'
      exact absurd (Linter.next_of_asked (hm' ▸ hc)).1 (Nat.ne_of_lt hlt)
    · have hnext := Linter.next_of_asked (hm ▸ hc)
      refine ⟨by omega, fun a hget => ?_⟩
      rw [← hsettings] at htag ⊢
      refine Linter.foreign_change hc hget (fun d' hm' _ => ?_) fun a' hget' _ => ?_
      · cases hm.symm.trans hm'
        exact htag
      · have hnone := (orderly_run hl ms).get?_next
        rw [← hnext.1, hget'] at hnone
        cases hnone

/-- **Nothing comes of a move for a document of another syntax**, and no ticket is touched. -/
theorem overlooked_move {w : Workspace} (hl : w.linter.Orderly) {ms : List Move} {m : Move}
    (h : Overlooked w.linter.settings.tag (w.marks ms) m) :
    ((w.run ms).move m).2 = [] ∧
      ((w.run ms).move m).1.linter.publisher = (w.run ms).linter.publisher := by
  have hturn : ∀ (a : Nat → Action) (id : Nat), Linter.Local (fun l id => l.step (a id)) →
      (∃ d, .asked id d ∈ w.marks ms ∧ d.tag ≠ w.linter.settings.tag) →
      ((w.run ms).act (a id)).2 = [] ∧
        ((w.run ms).act (a id)).1.linter.publisher = (w.run ms).linter.publisher := by
    rintro a id hlocal ⟨d, hd, htag⟩
    have hforeign := (foreign_of_asked hl hd htag).2
    rw [← settings_run w ms] at hforeign
    obtain ⟨o, -, ho⟩ := hlocal.of_foreign hforeign
    rw [act, ho]
    exact ⟨rfl, rfl⟩
  cases m with
  | event e =>
    obtain ⟨d, hd, htag⟩ := h
    cases e with
    | destroyed e => cases hd
    | _ => exact ⟨rfl, rfl⟩
  | advance id => exact hturn .advance id Linter.local_advance h
  | ended id outcome => exact hturn (.ended · outcome) id (Linter.local_settle outcome) h
  | _ => exact h.elim

/-- A document that has been of other syntax all the time takes no ticket and nobody is told about
it, also when it is closed. -/
theorem foreign_document_silent (s : ValidatorSettings) (installed : Bool) {ms : List Move}
    {u : Uri} (hu : ∀ id d, .asked id d ∈ (start (Linter.start s installed).1).marks ms →
      d.uri = u → d.tag ≠ s.tag) :
    let w := start (Linter.start s installed).1
    (∀ n ∈ w.notices ms, n.uri ≠ u) ∧ (∀ t ∈ startedIn (w.marks ms), t.uri ≠ u) ∧
      (w.run ms).linter.publisher.issues? u = none ∧
      ∀ id a, (w.run ms).linter.attempts.get? id = some a → a.uri = u → a.Foreign s.tag := by
  intro w
  induction ms using List.reverseRecOn with
  | nil => exact ⟨by simp [notices, effects, Effect.notices], by simp [marks, startedIn], rfl,
      fun id a hget => by cases hget⟩
  | append_singleton ms m ih =>
    obtain ⟨hnotices, hstarted, hissues, hforeign⟩ := ih fun id d hm =>
      hu id d (by rw [marks_append]; exact List.mem_append_left _ hm)
    have hl : (w.run ms).linter.Orderly := orderly_run (Linter.orderly_start s installed) ms
    have hc := change_move (w.run ms) m
    have hsettings : (w.run ms).linter.settings = s := settings_run w ms
    have hrunning : ∀ id u' x t, (w.run ms).linter.attempts.get? id = some ⟨u', x, .running t⟩ →
        t.uri ≠ u := by
      intro id u' x t hget htu
      obtain ⟨t', ht', _⟩ := hforeign id _ hget ((hl.uri_eq id u' x t hget).symm.trans htu)
      cases ht'
    obtain ⟨hsilent, hissues'⟩ := Linter.untracked_change hc hissues
      (fun findings hm => move_of_mark hm) fun id t outcome hm => by
        obtain ⟨u', x, hget, _⟩ := (hm ▸ hc).ended_attempt
        exact hrunning id u' x t hget
    rw [run_concat, notices_concat, marks_concat]
    refine ⟨fun n hn => ?_, fun t ht => ?_, hissues', fun id a hget hau => ?_⟩
    · exact (List.mem_append.1 hn).elim (hnotices n) (hsilent n)
    · rcases mem_startedIn_append.1 ht with ht | ⟨id, x, hm⟩
      · exact hstarted t ht
      · rintro rfl
        obtain ⟨t', ht', _⟩ := hforeign id _ (hm ▸ hc).started_ticket.1 rfl
        cases ht'
    · rw [← hsettings] at hforeign ⊢
      refine Linter.foreign_change hc hget (fun d hm hd => ?_) fun a' hget' hau' =>
        hforeign id a' hget' (hau'.trans hau)
      rw [hsettings]
      exact hu id d (by rw [marks_concat, hm]; simp) (hd.trans hau)

/-- **Documents of other syntax are not seen**: without their checks, and with any texts, all
effects are the same but for the numbers of the attempts. -/
theorem other_syntax_unseen (s : ValidatorSettings) (installed : Bool) (texts : Nat → String)
    (ms : List Move) :
    let w := start (Linter.start s installed).1
    let v : Veil := ⟨0, []⟩
    let left := w.run (v.moves s.tag texts ms)
    w.effects (v.moves s.tag texts ms) =
        (w.effects ms).map (Effect.renumber (v.afterAll s.tag ms).kept.idxOf) ∧
      left.editors = (w.run ms).editors ∧
      left.linter.publisher = (w.run ms).linter.publisher ∧
      left.linter.lookup = (w.run ms).linter.lookup ∧
      left.linter.warning = (w.run ms).linter.warning ∧
      left.linter.installation = (w.run ms).linter.installation ∧
      (∀ m, Overlooked s.tag (w.marks ms) m → ((w.run ms).move m).2 = [] ∧
        ((w.run ms).move m).1.linter.publisher = (w.run ms).linter.publisher) ∧
      ∀ u, (∀ id d, .asked id d ∈ w.marks ms → d.uri = u → d.tag ≠ s.tag) →
        (∀ n ∈ w.notices ms, n.uri ≠ u) ∧ ∀ t ∈ startedIn (w.marks ms), t.uri ≠ u := by
  intro w v left
  obtain ⟨⟨-, attempts, hleft, -⟩, heffects⟩ :=
    Veil.shows_run (Veil.shows_start s installed) texts ms
  have hleft : left = _ := hleft
  refine ⟨heffects _ fun _ _ => rfl, ?_, ?_, ?_, ?_, ?_, fun m hm => ?_, fun u hu => ?_⟩
  · rw [hleft]
  · rw [hleft]; rfl
  · rw [hleft]; rfl
  · rw [hleft]; rfl
  · rw [hleft]; rfl
  · exact overlooked_move (Linter.orderly_start s installed) hm
  · have hsilent := foreign_document_silent s installed hu
    exact ⟨hsilent.1, hsilent.2.1⟩

/-- A document changes its syntax during a run, is opened again as another one and changes back;
another document is of other syntax throughout. -/
theorem changed_back_and_forth :
    let s : ValidatorSettings :=
      ⟨"jsonlint", "npx", "npm", [], ⟨"/tmp"⟩, "json", by decide, by decide, by decide, by decide⟩
    let a : Uri := ⟨"a"⟩
    let b : Uri := ⟨"b"⟩
    let ms : List Move := [.event (.added ⟨1⟩ ⟨a, "json", "x"⟩), .advance 0, .lookedUp true,
      .advance 0, .advance 0, .event (.retagged ⟨1⟩ ⟨a, "text", "x"⟩),
      .event (.added ⟨2⟩ ⟨b, "text", "y"⟩), .event (.retagged ⟨1⟩ ⟨a, "json", "z"⟩), .advance 3,
      .advance 3, .advance 3, .event (.destroyed ⟨2⟩)]
    let w := start (Linter.start s true).1
    let v : Veil := ⟨0, []⟩
    v.moves s.tag (fun _ => "new") ms = [.event (.added ⟨1⟩ ⟨a, "json", "x"⟩), .advance 0,
        .lookedUp true, .advance 0, .advance 0, .event (.added ⟨2⟩ ⟨b, "text", "new"⟩),
        .event (.retagged ⟨1⟩ ⟨a, "json", "z"⟩), .advance 2, .advance 2, .advance 2,
        .event (.destroyed ⟨2⟩)] ∧
      w.effects ms = [.lookUp "npx", .validate 0 s.command "x", .validate 3 s.command "z"] ∧
      (Overlooked s.tag (w.marks ms) (.advance 1) ∧ ((w.run ms).move (.advance 1)).2 = [] ∧
        ((w.run ms).move (.advance 1)).1.linter.publisher = (w.run ms).linter.publisher) ∧
      (∀ n ∈ w.notices ms, n.uri ≠ b) ∧ ∀ t ∈ startedIn (w.marks ms), t.uri ≠ b := by
  intro s a b ms w v
  have hmarks : w.marks ms = [.asked 0 ⟨a, "json", "x"⟩, .started 0 ⟨a, 1⟩ "x",
      .asked 1 ⟨a, "text", "x"⟩, .asked 2 ⟨b, "text", "y"⟩, .asked 3 ⟨a, "json", "z"⟩,
      .started 3 ⟨a, 2⟩ "z", .removed b] := by rfl
  have hover : Overlooked s.tag (w.marks ms) (.advance 1) :=
    ⟨⟨a, "text", "x"⟩, by simp [hmarks], by decide⟩
  have hb : ∀ id d, .asked id d ∈ w.marks ms → d.uri = b → d.tag ≠ s.tag := by
    intro id d hm hd
    simp only [hmarks, List.mem_cons, Mark.asked.injEq, reduceCtorEq, List.not_mem_nil,
      or_false, false_or] at hm
    rcases hm with ⟨-, rfl⟩ | ⟨-, rfl⟩ | ⟨-, rfl⟩ | ⟨-, rfl⟩
    · exact absurd hd (by decide)
    · exact absurd hd (by decide)
    · decide
    · exact absurd hd (by decide)
  obtain ⟨-, -, -, -, -, -, hnothing, hsilent⟩ :=
    other_syntax_unseen s true (fun _ => "new") ms
  have hturn := hnothing _ hover
  have hdoc := hsilent b hb
  refine ⟨by rfl, by decide +kernel, ⟨hover, ?_⟩, ?_⟩
  · simpa only [w] using hturn
  · simpa only [w] using hdoc

end Workspace

end LintServer
