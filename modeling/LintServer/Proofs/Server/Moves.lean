import LintServer.Server
import LintServer.Proofs.Session.Reported

/-!
# The moves of a server

Few steps of a server concern its workspace, and each of those is one move of it. The others belong
to the session and to the connection, which hand on nothing but events and answers.

* `Server.inTurn_same`, `absorb_workspace`, `follow_workspace`: what the parts of a step leave alone;
* `Server.move?`, `Turn`, **`turn_step`**: the move of a step, and all that it can be;
* `Turn.workspace`, `Turn.validate_mem_iff`: what it does to the workspace, and when it starts the
  validator;
* `Server.moves`, **`workspace_inTurn`**, `validate_mem_inTurn_iff`: many steps.
-/

namespace LintServer

/-- The move that an answer from the editor's side is. -/
def Workspace.Move.ofAnswer? : Action → Option Workspace.Move
  | .answered choice => some (.answered choice)
  | .configShown r => some (.configShown r)
  | _ => none

/-- What is to be done outside about an effect. -/
def Effect.order? : Effect → Option Server.Order
  | lookUp program => some (.lookUp program)
  | validate id command text => some (.validate id command text)
  | install s => some (.install s)
  | log e => some (.log e)
  | _ => none

namespace Server

open Workspace (Move)

variable {s : Server}

/-! ## Things done in turn -/

section InTurn

variable {α β : Type} {act : Server → α → Server × List Order}

theorem inTurn_concat (act : Server → α → Server × List Order) (s : Server) (things : List α)
    (a : α) : inTurn act s (things ++ [a]) =
      ((act (inTurn act s things).1 a).1,
        (inTurn act s things).2 ++ (act (inTurn act s things).1 a).2) :=
  List.foldl_append

theorem inTurn_same (f : Server → β) (hact : ∀ s a, f (act s a).1 = f s) (s : Server)
    (things : List α) : f (inTurn act s things).1 = f s := by
  induction things using List.reverseRecOn with
  | nil => rfl
  | append_singleton things a ih => rw [inTurn_concat, hact, ih]

theorem inTurn_keeps {P : Server → Prop} (hact : ∀ s a, P s → P (act s a).1) (h : P s)
    (things : List α) : P (inTurn act s things).1 := by
  induction things using List.reverseRecOn with
  | nil => exact h
  | append_singleton things a ih =>
    rw [inTurn_concat]
    exact hact _ a ih

end InTurn

/-! ## Effects -/

/-- All answers that wait come from the editor's side. -/
def Answerable (s : Server) : Prop := ∀ a ∈ s.answers, (Move.ofAnswer? a).isSome

theorem Answerable.append {answers : List Action} (h : s.Answerable)
    (hnew : ∀ a ∈ answers, (Move.ofAnswer? a).isSome) :
    ∀ a ∈ s.answers ++ answers, (Move.ofAnswer? a).isSome :=
  List.forall_mem_append.2 ⟨h, hnew⟩

theorem Answerable.perform (h : s.Answerable) (e : Effect) : (s.perform e).1.Answerable := by
  cases e with
  | notify n =>
    refine h.append fun a ha => ?_
    obtain ⟨e, _, rfl⟩ := Option.map_eq_some_iff.1 (Option.mem_toList.1 ha)
    rfl
  | showConfig =>
    refine h.append fun a ha => ?_
    rw [List.mem_singleton.1 ha]
    rfl
  | _ => exact h

theorem perform_orders (s : Server) (e : Effect) : (s.perform e).2 = e.order?.toList := by
  cases e <;> rfl

section Absorb

variable (s : Server) (r : Workspace × List Effect)

@[simp] theorem absorb_session : (s.absorb r).1.session = s.session :=
  inTurn_same session (fun _ e => by cases e <;> rfl) _ _

@[simp] theorem absorb_events : (s.absorb r).1.events = s.events :=
  inTurn_same events (fun _ e => by cases e <;> rfl) _ _

@[simp] theorem absorb_phase : (s.absorb r).1.phase = s.phase :=
  inTurn_same phase (fun _ e => by cases e <;> rfl) _ _

@[simp] theorem absorb_workspace : (s.absorb r).1.workspace = r.1 :=
  inTurn_same workspace (fun _ e => by cases e <;> rfl) _ _

theorem absorb_orders : (s.absorb r).2 = r.2.filterMap Effect.order? := by
  unfold absorb
  induction r.2 using List.reverseRecOn with
  | nil => rfl
  | append_singleton es e ih =>
    rw [inTurn_concat, ih, perform_orders, List.filterMap_append]
    cases h : e.order? <;> simp [h]

end Absorb

theorem Answerable.absorb (h : s.Answerable) (r : Workspace × List Effect) :
    (s.absorb r).1.Answerable :=
  inTurn_keeps (s := { s with workspace := r.1 }) (fun _ e h => h.perform e) h _

/-! ## Outcomes -/

theorem Answerable.carryOut (h : s.Answerable) (o : Outcome) : (s.carryOut o).1.Answerable := by
  cases o with
  | answer id body =>
    simp only [Server.carryOut]
    split
    · refine h.append fun a ha => ?_
      rw [List.mem_singleton.1 ha]
      rfl
    · exact h
  | _ => exact h

theorem Answerable.follow (h : s.Answerable) (r : Session × List Outcome) :
    (s.follow r).1.Answerable :=
  inTurn_keeps (s := { s with session := r.1 }) (fun _ o h => h.carryOut o) h _

section Follow

variable (s : Server) (r : Session × List Outcome)

@[simp] theorem follow_workspace : (s.follow r).1.workspace = s.workspace := by
  refine inTurn_same workspace (fun s o => ?_) _ _
  cases o with
  | answer id body =>
    simp only [carryOut]
    split <;> rfl
  | _ => rfl

theorem carryOut_events (o : Outcome) : (s.carryOut o).1.events = s.events ++ o.event?.toList := by
  cases o with
  | answer id body =>
    simp only [carryOut]
    split <;> exact (List.append_nil _).symm
  | event e => rfl
  | _ => exact (List.append_nil _).symm

theorem follow_events : (s.follow r).1.events = s.events ++ r.2.filterMap Outcome.event? := by
  unfold follow
  induction r.2 using List.reverseRecOn with
  | nil => exact (List.append_nil _).symm
  | append_singleton os o ih =>
    rw [inTurn_concat, carryOut_events, ih, List.filterMap_append, List.append_assoc]
    cases h : o.event? <;> simp [h]

theorem follow_reading (h : (s.follow r).1.phase = .reading) :
    s.phase = .reading ∧ (s.follow r).1.session = r.1 := by
  revert h
  refine inTurn_keeps (s := { s with session := r.1 })
    (P := fun s' => s'.phase = .reading → s.phase = .reading ∧ s'.session = r.1)
    (fun s' o ih h => ?_) (fun h => ⟨h, rfl⟩) _
  cases o with
  | answer id body =>
    simp only [carryOut] at h ⊢
    split at h
    · exact ih h
    · exact ih h
  | exit => cases h
  | _ => exact ih h

theorem log_of_mem_follow {o : Order} (ho : o ∈ (s.follow r).2) : ∃ e, o = .log e := by
  revert ho
  unfold follow
  induction r.2 using List.reverseRecOn with
  | nil => exact fun ho => absurd ho List.not_mem_nil
  | append_singleton os outcome ih =>
    rw [inTurn_concat, List.mem_append]
    rintro (ho | ho)
    · exact ih ho
    · cases outcome with
      | log e => exact ⟨e, List.mem_singleton.1 ho⟩
      | answer id body =>
        simp only [carryOut] at ho
        split at ho <;> exact absurd ho List.not_mem_nil
      | _ => exact absurd ho List.not_mem_nil

theorem follow_orders (id : Nat) (command : Command) (text : String) :
    .validate id command text ∉ (s.follow r).2 := by
  intro ho
  obtain ⟨e, he⟩ := log_of_mem_follow s r ho
  cases he

end Follow

/-! ## Steps -/

/-- The move of a step. -/
def move? (s : Server) : Step → Option Move
  | .lookedUp found => some (.lookedUp found)
  | .ended id outcome => some (.ended id outcome)
  | .installed r => some (.installed r)
  | .handle => s.events.head?.map .event
  | .deliver => s.answers.head?.bind Move.ofAnswer?
  | .advance id => some (.advance id)
  | _ => none

/-- All that a step can be. -/
inductive Turn (s : Server) : Option Move → Server × List Order → Prop
  /-- The workspace moves; an event that it handles has come first in the queue. -/
  | moved (m : Move) (events : List EditorEvent) (answers : List Action)
      (hevents : s.events = m.event?.toList ++ events) (hanswers : answers ⊆ s.answers) :
      Turn s (some m) ({ s with events, answers }.absorb (s.workspace.move m))
  /-- The session gets a frame. -/
  | received (input : List UInt8) (r : Session × List Outcome) (hr : s.session.Received r)
      (hphase : s.phase = .reading) :
      Turn s none ({ s with input }.follow r)
  /-- A timer fires. -/
  | fired (session : Session) (e : EditorEvent) (hfire : s.session.fire? = some (session, e)) :
      Turn s none ({ s with session, events := s.events ++ [e] }, [])
  /-- The session is over. -/
  | left (r : Except FrameError Unit) : Turn s none (s.leave r, [])
  /-- Time passes, or the connection and the input are concerned. -/
  | aside (s' : Server) (orders : List Order) (ms : Nat)
      (hsession : s'.session = s.session.elapse ms) (hevents : s'.events = s.events)
      (hworkspace : s'.workspace = s.workspace) (hanswers : s'.answers = s.answers)
      (hphase : s'.phase = .reading → s.phase = .reading)
      (horders : ∀ id command text, .validate id command text ∉ orders) :
      Turn s none (s', orders)

theorem turn_idle (s : Server) : Turn s none (s, []) :=
  .aside s [] 0 rfl rfl rfl rfl id fun _ _ _ => List.not_mem_nil

theorem turn_readFrame (h : s.phase = .reading) : Turn s none s.readFrame := by
  unfold readFrame
  split
  · exact turn_idle s
  · exact .left _
  · exact .left _
  · refine .received _ _ ?_ h
    split
    · exact Session.received_receive _ _
    · exact .other s.session.shuttingDown _ rfl

/-- **There is nothing else.** -/
theorem turn_step (h : s.Answerable) (x : Step) : Turn s (s.move? x) (s.step x) := by
  cases x with
  | receive bytes => exact .aside _ [] 0 rfl rfl rfl rfl id fun _ _ _ => List.not_mem_nil
  | endInput => exact .aside _ [] 0 rfl rfl rfl rfl id fun _ _ _ => List.not_mem_nil
  | elapse ms => exact .aside _ [] ms rfl rfl rfl rfl id fun _ _ _ => List.not_mem_nil
  | written r =>
    refine .aside _ _ 0 rfl rfl rfl rfl id fun _ _ _ => ?_
    split
    · simp
    · exact List.not_mem_nil
  | lookedUp found => exact .moved _ s.events s.answers rfl (List.Subset.refl _)
  | ended id outcome => exact .moved _ s.events s.answers rfl (List.Subset.refl _)
  | installed r => exact .moved _ s.events s.answers rfl (List.Subset.refl _)
  | advance id => exact .moved _ s.events s.answers rfl (List.Subset.refl _)
  | read =>
    simp only [step, move?]
    split
    · exact turn_readFrame (by assumption)
    · exact turn_idle s
  | handle =>
    cases he : s.events with
    | nil =>
      simp only [step, move?, he, List.head?_nil, Option.map_none]
      exact turn_idle s
    | cons e rest =>
      simp only [step, move?, he, List.head?_cons, Option.map_some]
      exact .moved (.event e) rest s.answers he (List.Subset.refl _)
  | deliver =>
    cases ha : s.answers with
    | nil =>
      simp only [step, move?, ha, List.head?_nil, Option.bind_none]
      exact turn_idle s
    | cons a rest =>
      simp only [step, move?, ha, List.head?_cons, Option.bind_some]
      have hrest : rest ⊆ s.answers := ha ▸ List.subset_cons_self a rest
      have hanswer := h a (ha ▸ List.mem_cons_self)
      cases a with
      | answered choice => exact .moved (.answered choice) s.events rest rfl hrest
      | configShown r => exact .moved (.configShown r) s.events rest rfl hrest
      | _ => cases hanswer
  | fire =>
    simp only [step, move?]
    split
    · exact .fired _ _ (by assumption)
    · exact turn_idle s
  | stop =>
    simp only [step, move?]
    split
    · exact .aside _ [] 0 rfl rfl rfl rfl (fun h => by cases h) fun _ _ _ => List.not_mem_nil
    · exact turn_idle s
  | write =>
    simp only [step, move?, writeNext]
    split
    · exact .aside _ _ 0 rfl rfl rfl rfl id fun _ _ _ => by simp
    · exact .aside _ [] 0 rfl rfl rfl rfl id fun _ _ _ => List.not_mem_nil
    · exact turn_idle s
  | finish =>
    simp only [step, move?]
    split
    · split_ifs
      · exact turn_idle s
      · exact .aside _ [] 0 rfl rfl rfl rfl (fun h => by cases h) fun _ _ _ => List.not_mem_nil
    · exact turn_idle s

section Turn

variable {m : Option Move} {r : Server × List Order}

theorem Answerable.turn (h : s.Answerable) (ht : Turn s m r) : r.1.Answerable := by
  cases ht with
  | moved m events answers hevents hanswers =>
    exact Answerable.absorb (s := { s with events, answers }) (fun a ha => h a (hanswers ha)) _
  | received input r hr hphase => exact Answerable.follow (s := { s with input }) h r
  | fired session e hfire => exact h
  | left r => exact h
  | aside s' orders ms hsession hevents hworkspace hanswers hphase horders =>
    intro a ha
    exact h a (hanswers ▸ ha)

theorem Turn.workspace (ht : Turn s m r) :
    r.1.workspace = m.elim s.workspace fun m => (s.workspace.move m).1 := by
  cases ht with
  | moved m events answers hevents hanswers => exact absorb_workspace _ _
  | received input r hr hphase => exact follow_workspace _ _
  | fired session e hfire => rfl
  | left r => rfl
  | aside s' orders ms hsession hevents hworkspace hanswers hphase horders => exact hworkspace

theorem Turn.validate_mem_iff (ht : Turn s m r) {id : Nat} {command : Command} {text : String} :
    .validate id command text ∈ r.2 ↔
      ∃ m', m = some m' ∧ .validate id command text ∈ (s.workspace.move m').2 := by
  cases ht with
  | moved m events answers hevents hanswers =>
    rw [absorb_orders, List.mem_filterMap]
    constructor
    · rintro ⟨e, he, ho⟩
      cases e with
      | validate id' command' text' =>
        cases ho
        exact ⟨m, rfl, he⟩
      | _ => cases ho
    · rintro ⟨m', hm, he⟩
      cases hm
      exact ⟨_, he, rfl⟩
  | received input r hr hphase => simp [follow_orders]
  | fired session e hfire => simp
  | left r => simp
  | aside s' orders ms hsession hevents hworkspace hanswers hphase horders => simp [horders]

end Turn

/-! ## Many steps -/

theorem inTurn_cons {α : Type} (act : Server → α → Server × List Order) (s : Server) (a : α)
    (things : List α) : inTurn act s (a :: things) =
      ((inTurn act (act s a).1 things).1, (act s a).2 ++ (inTurn act (act s a).1 things).2) := by
  induction things using List.reverseRecOn with
  | nil => simp [inTurn]
  | append_singleton things b ih =>
    rw [← List.cons_append, inTurn_concat, ih, inTurn_concat, List.append_assoc]

theorem inTurn_append {α : Type} (act : Server → α → Server × List Order) (s : Server)
    (things more : List α) : inTurn act s (things ++ more) =
      ((inTurn act (inTurn act s things).1 more).1,
        (inTurn act s things).2 ++ (inTurn act (inTurn act s things).1 more).2) := by
  induction more using List.reverseRecOn with
  | nil => simp [inTurn]
  | append_singleton more a ih =>
    rw [← List.append_assoc, inTurn_concat, ih, inTurn_concat, List.append_assoc]

/-- The moves of a server in some steps. -/
def moves (s : Server) : List Step → List Move
  | [] => []
  | x :: xs => (s.move? x).toList ++ moves (s.step x).1 xs

theorem moves_concat (s : Server) (xs : List Step) (x : Step) :
    s.moves (xs ++ [x]) = s.moves xs ++ ((inTurn step s xs).1.move? x).toList := by
  induction xs generalizing s with
  | nil => simp [moves, inTurn]
  | cons y xs ih => rw [List.cons_append, moves, ih, moves, inTurn_cons, List.append_assoc]

theorem answerable_inTurn (h : s.Answerable) (xs : List Step) : (inTurn step s xs).1.Answerable :=
  inTurn_keeps (fun _ x h => h.turn (turn_step h x)) h xs

/-- **The workspace of a server** has made the moves of the steps, and no others. -/
theorem workspace_inTurn (h : s.Answerable) (xs : List Step) :
    (inTurn step s xs).1.workspace = s.workspace.run (s.moves xs) := by
  induction xs using List.reverseRecOn with
  | nil => rfl
  | append_singleton xs x ih =>
    rw [inTurn_concat, moves_concat, (turn_step (answerable_inTurn h xs) x).workspace, ih]
    cases (inTurn step s xs).1.move? x with
    | none => simp
    | some m => simp [Workspace.run_concat]

/-- The validator runs for the attempts that take a ticket. -/
theorem validate_mem_inTurn_iff (h : s.Answerable) {xs : List Step} {id : Nat} {command : Command}
    {text : String} :
    .validate id command text ∈ (inTurn step s xs).2 ↔
      .validate id command text ∈ s.workspace.effects (s.moves xs) := by
  induction xs using List.reverseRecOn with
  | nil => simp [inTurn, moves, Workspace.effects]
  | append_singleton xs x ih =>
    rw [inTurn_concat, moves_concat, List.mem_append, ih,
      (turn_step (answerable_inTurn h xs) x).validate_mem_iff, workspace_inTurn h,
      Workspace.effects_append, List.mem_append]
    refine or_congr_right ?_
    cases (inTurn step s xs).1.move? x with
    | none => simp [Workspace.effects]
    | some m => simp [Workspace.effects]

end Server

end LintServer
