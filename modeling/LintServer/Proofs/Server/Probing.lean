import LintServer.Proofs.Server.Agreement
import LintServer.Proofs.Workspace.Turns

/-!
# The search for the runner on a server

However the parts of a server take turns, the runner is looked up for a document of the configured
syntax, and what is known about it is what the search has brought.

* `Server.Happened`: a step of some kind has been taken;
* `Server.Lints`, `Server.Finds`: a document is to be checked, the search for the runner is over;
* `Order.program?`, `programs_step`: only moves look anything up;
* **`Server.Probing`**, `probing_inTurn`: the search and the reasons for it;
* `validate_of_turns`: an attempt that gets its turns is fed to the validator.
-/

namespace LintServer

namespace Server

open Workspace (Move)

variable {s s₀ : Server} {xs : List Step} {orders : List Order} {x : Step}

/-! ## What has happened -/

/-- A step of some kind has been taken, in a state that is right for it. -/
def Happened (s : Server) (xs : List Step) (P : Server → Step → Prop) : Prop :=
  ∃ before x after, xs = before ++ x :: after ∧ P (inTurn step s before).1 x

theorem Happened.concat {P : Server → Step → Prop} (h : Happened s xs P) (x : Step) :
    Happened s (xs ++ [x]) P := by
  obtain ⟨before, y, after, rfl, hP⟩ := h
  exact ⟨before, y, after ++ [x], by simp, hP⟩

theorem happened_last {P : Server → Step → Prop} (h : P (inTurn step s xs).1 x) :
    Happened s (xs ++ [x]) P :=
  ⟨xs, x, [], rfl, h⟩

/-- An event is handled that asks to check a document with a tag. -/
def Lints (tag : String) (s : Server) (x : Step) : Prop :=
  x = .handle ∧ ∃ e d, s.events.head? = some e ∧ e.document? = some d ∧ d.tag = tag

/-- The search for the runner, which has been asked for, comes to its end. -/
def Finds (found : Bool) (s : Server) (x : Step) : Prop :=
  x = .lookedUp found ∧ s.workspace.linter.lookup = .asked

/-! ## What is looked up -/

/-- The program that is to be looked up. -/
def Order.program? : Order → Option String
  | lookUp program => some program
  | _ => none

theorem programs_absorb (s : Server) (r : Workspace × List Effect) :
    (s.absorb r).2.filterMap Order.program? = r.2.filterMap Effect.program? := by
  rw [absorb_orders, List.filterMap_filterMap]
  refine congrArg (List.filterMap · r.2) (funext fun e => ?_)
  cases e <;> rfl

theorem programs_follow (s : Server) (r : Session × List Outcome) :
    (s.follow r).2.filterMap Order.program? = [] := by
  refine List.filterMap_eq_nil_iff.2 fun o ho => ?_
  obtain ⟨e, rfl⟩ := log_of_mem_follow s r ho
  rfl

/-- Only moves of the workspace look anything up. -/
theorem programs_step (hs : s.Answerable) (x : Step) :
    (s.step x).2.filterMap Order.program? =
      (s.move? x).elim [] fun m => (s.workspace.move m).2.filterMap Effect.program? := by
  cases x with
  | lookedUp found => exact programs_absorb _ _
  | ended id outcome => exact programs_absorb _ _
  | installed r => exact programs_absorb _ _
  | advance id => exact programs_absorb _ _
  | handle =>
    cases he : s.events with
    | nil => simp only [step, move?, he]; rfl
    | cons e rest =>
      simp only [step, move?, he]
      exact programs_absorb _ _
  | deliver =>
    cases ha : s.answers with
    | nil => simp only [step, move?, ha]; rfl
    | cons a rest =>
      have hanswer := hs a (ha ▸ List.mem_cons_self)
      simp only [step, move?, ha]
      cases a with
      | answered choice => exact programs_absorb _ _
      | configShown r => exact programs_absorb _ _
      | _ => cases hanswer
  | written r =>
    simp only [step, takeWritten]
    split <;> rfl
  | read =>
    simp only [step, readFrame]
    split
    · split
      · rfl
      · rfl
      · rfl
      · exact programs_follow _ _
    · rfl
  | fire => simp only [step]; split <;> rfl
  | stop => simp only [step]; split <;> rfl
  | write => simp only [step, writeNext]; split <;> rfl
  | finish => simp only [step]; split <;> [split_ifs; skip] <;> rfl
  | _ => rfl

theorem lookedUp_of_move? {found : Bool} (h : s.move? x = some (.lookedUp found)) :
    x = .lookedUp found := by
  cases x with
  | lookedUp found' => cases h; rfl
  | handle => obtain ⟨e, _, he⟩ := Option.map_eq_some_iff.1 h; cases he
  | deliver =>
    obtain ⟨a, _, ha⟩ := Option.bind_eq_some_iff.1 h
    cases a <;> cases ha
  | _ => cases h

/-! ## The search and its reasons -/

/-- The runner has been looked up if somebody has asked for it, and only once; whoever asked was
about to check a document of the configured syntax. -/
structure Probing (s₀ : Server) (xs : List Step) (s : Server) (orders : List Order) : Prop where
  programs : orders.filterMap Order.program? =
    if s.workspace.linter.lookup = .unasked then [] else [s.workspace.linter.settings.runner]
  fresh : ∀ id u text tag, s.workspace.linter.attempts.get? id = some ⟨u, text, .fresh tag⟩ →
    s₀.Happened xs (Lints tag)
  asked : s.workspace.linter.lookup ≠ .unasked →
    s₀.Happened xs (Lints s.workspace.linter.settings.tag)
  answered : ∀ found, s.workspace.linter.lookup = .answered found → s₀.Happened xs (Finds found)

/-- An attempt whose syntax has not been looked at was there before, or it is asked for by an
event. -/
theorem Probing.fresh_move (h : s₀.Probing xs s orders) (hrun : (inTurn step s₀ xs).1 = s)
    {m : Move} (hm : s.move? x = some m) {id : Nat} {u : Uri} {text tag : String}
    (hget : (s.workspace.move m).1.linter.attempts.get? id = some ⟨u, text, .fresh tag⟩) :
    s₀.Happened (xs ++ [x]) (Lints tag) := by
  cases (Workspace.change_move s.workspace m).fate id with
  | same hsame hmark => exact (h.fresh id u text tag (hsame ▸ hget)).concat x
  | asked d stage hstage hid hnew hmark =>
    rw [hnew] at hget
    cases hget
    obtain ⟨-, e, rfl, hdocument⟩ := Workspace.move_of_mark hmark
    obtain rfl : x = .handle := (handle_of_move? hm).1
    obtain ⟨e', he', rfl⟩ : ∃ e', s.events.head? = some e' ∧ e' = e := by
      simpa [move?] using hm
    rcases hstage with htag | ⟨htag, _⟩
    · have htag : tag = d.tag := Stage.fresh.inj htag
      exact happened_last (hrun ▸ ⟨rfl, e', d, he', hdocument, htag.symm⟩)
    · cases htag
  | started v y hold hnew hpublisher hmark => rw [hnew] at hget; cases hget
  | moved v y old new hold hnew hmove hlookup hmark =>
    rw [hnew] at hget
    cases hget
    rcases hmove with ⟨_, hnew⟩ | ⟨_, hnew⟩ <;> cases hnew
  | skipped v y tag' hold htag hnew hmark => rw [hnew] at hget; cases hget
  | ended v y t outcome hold hnew hmark => rw [hnew] at hget; cases hget

theorem inquiry_step (hs : s.Answerable) (x : Step) : ∃ a es,
    Linter.Inquiry s.workspace.linter (s.step x).1.workspace.linter a es ∧
      (s.step x).2.filterMap Order.program? = es.filterMap Effect.program? ∧
      ∀ found, a = some (.lookedUp found) → x = .lookedUp found := by
  rw [programs_step hs, (turn_step hs x).workspace]
  cases hm : s.move? x with
  | none => exact ⟨none, [], .aside _ _ rfl rfl (by simp) rfl (by simp), rfl, by simp⟩
  | some m =>
    refine ⟨_, _, Workspace.inquiry_move s.workspace m, rfl, fun found ha => ?_⟩
    cases m with
    | event e => rcases EditorEvent.action?_cases ha with ⟨_, _, h⟩ | ⟨_, _, _, _, h⟩ <;> cases h
    | lookedUp found' => cases ha; exact lookedUp_of_move? hm
    | _ => cases ha

theorem settings_step (hs : s.Answerable) (x : Step) :
    (s.step x).1.workspace.linter.settings = s.workspace.linter.settings := by
  rw [(turn_step hs x).workspace]
  cases s.move? x with
  | none => rfl
  | some m => exact Workspace.settings_move s.workspace m

/-- **One step.** -/
theorem Probing.step (h : s₀.Probing xs s orders) (hrun : (inTurn step s₀ xs).1 = s)
    (hs : s.Answerable) (x : Step) :
    s₀.Probing (xs ++ [x]) (s.step x).1 (orders ++ (s.step x).2) := by
  have hfresh : ∀ id u text tag, (s.step x).1.workspace.linter.attempts.get? id =
      some ⟨u, text, .fresh tag⟩ → s₀.Happened (xs ++ [x]) (Lints tag) := by
    intro id u text tag hget
    rw [(turn_step hs x).workspace] at hget
    cases hm : s.move? x with
    | none => rw [hm] at hget; exact (h.fresh id u text tag hget).concat x
    | some m => rw [hm] at hget; exact h.fresh_move hrun hm hget
  obtain ⟨a, es, hinquiry, hprograms, ha⟩ := inquiry_step hs x
  rcases hinquiry.search with ⟨hsame, hnone⟩ | ⟨hbefore, hasked, hrunner, id, u, text, hget⟩ |
      ⟨found, hbefore, hfound, hnone, hanswer⟩
  · refine ⟨?_, hfresh, fun hasked => ?_, fun found hfound => ?_⟩
    · rw [List.filterMap_append, h.programs, hprograms, hnone, hsame, settings_step hs,
        List.append_nil]
    · rw [settings_step hs]
      exact (h.asked (hsame ▸ hasked)).concat x
    · exact (h.answered found (hsame ▸ hfound)).concat x
  · refine ⟨?_, hfresh, fun _ => ?_, fun found hfound => ?_⟩
    · rw [List.filterMap_append, h.programs, hprograms, hrunner, if_pos hbefore, hasked,
        settings_step hs]
      rfl
    · rw [settings_step hs]
      exact (h.fresh id u text _ hget).concat x
    · rw [hasked] at hfound
      cases hfound
  · have hstarted : s.workspace.linter.lookup ≠ .unasked := by rw [hbefore]; simp
    refine ⟨?_, hfresh, fun _ => ?_, fun found' hfound' => ?_⟩
    · rw [List.filterMap_append, h.programs, hprograms, hnone, if_neg hstarted, hfound,
        settings_step hs]
      rfl
    · rw [settings_step hs]
      exact (h.asked hstarted).concat x
    · rw [hfound] at hfound'
      cases hfound'
      exact happened_last (hrun ▸ ⟨ha found hanswer, hbefore⟩)

theorem probing_inTurn (hs : s₀.Answerable) (h : s₀.Probing [] s₀ []) (xs : List Step) :
    s₀.Probing xs (inTurn Server.step s₀ xs).1 (inTurn Server.step s₀ xs).2 := by
  induction xs using List.reverseRecOn with
  | nil => exact h
  | append_singleton xs x ih =>
    rw [inTurn_concat]
    exact ih.step rfl (answerable_inTurn hs xs) x

theorem probing_start (settings : Settings) (configPath : Option Path) (installed : Bool) :
    (start settings configPath installed).1.Probing [] (start settings configPath installed).1
      [] := by
  have hstart := workspace_start settings configPath installed
  refine ⟨?_, ?_, ?_, ?_⟩
  all_goals rw [hstart]
  · rfl
  · intro id u text tag hget
    cases hget
  · exact fun hasked => absurd rfl hasked
  · intro found hfound
    cases hfound

/-! ## Turns -/

theorem moves_append (s : Server) (xs ys : List Step) :
    s.moves (xs ++ ys) = s.moves xs ++ (inTurn Server.step s xs).1.moves ys := by
  induction xs generalizing s with
  | nil => rfl
  | cons x xs ih => rw [List.cons_append, moves, ih, moves, inTurn_cons, List.append_assoc]

theorem lookedUp_mem_moves {found : Bool} (h : .lookedUp found ∈ xs) (s : Server) :
    .lookedUp found ∈ s.moves xs := by
  obtain ⟨before, after, rfl⟩ := List.append_of_mem h
  rw [moves_append]
  exact List.mem_append_right _ List.mem_cons_self

/-- **An attempt that gets its turns is fed to the validator**, if the search for the runner is over
by the second turn. -/
theorem validate_of_turns (hs : s.Answerable) (hl : s.workspace.linter.Orderly)
    (hasked : s.workspace.linter.Asked) {id : Nat} {a : Attempt}
    (hget : s.workspace.linter.attempts.get? id = some a)
    (hmay : a.MayStart s.workspace.linter.settings.tag) (xs₁ xs₂ xs₃ xs₄ : List Step)
    (hsearch : (∃ found, s.workspace.linter.lookup = .answered found) ∨
      ∃ found, .lookedUp found ∈ xs₂) :
    .validate id s.workspace.linter.settings.command a.text ∈
      (inTurn Server.step s (xs₁ ++ [.advance id] ++ xs₂ ++ [.advance id] ++ xs₃ ++
        [.advance id] ++ xs₄)).2 := by
  have hwithin : s.workspace.Within id a.uri a.text 3 :=
    ⟨a.stage, hget, hmay, by cases a.stage <;> simp [Stage.turns]⟩
  rw [validate_mem_inTurn_iff hs, Workspace.validate_mem_effects_iff]
  refine ⟨rfl, ?_⟩
  simp only [moves_append]
  refine Workspace.started_of_turns hl hasked hwithin _ _ _ _ ?_
  rcases hsearch with hover | ⟨found, h⟩
  · exact .inl hover
  · exact .inr ⟨found, lookedUp_mem_moves h _⟩

end Server

end LintServer
