import LintServer.Proofs.Server.Answering

/-!
# Deeds of a server

Bytes that arrive do nothing but wait, and a frame that has been read is all that is left of them.
So what a server does in a run depends on the frames and on the order in which it reads them between
all else that happens, not on how the bytes came in.

* `Session.hear`: what comes of the body of a frame;
* `Server.Deed`, `Server.deed?`, `Server.does`: what a step comes to;
* `Server.bare`, `does_withInput`: a server without what it has to read;
* **`bare_step`**: a step does its deed;
* `Server.emissions`: the events that are emitted, each with its time.
-/

namespace LintServer

/-- What comes of the body of a frame. -/
def Session.hear (s : Session) (body : List UInt8) : Session × List Outcome :=
  match Json.ofBytes? body with
  | some frame => s.receive frame
  | none => s.malformed

namespace Server

/-- What a step comes to. -/
inductive Deed where
  /-- A frame has been read. -/
  | frame (body : List UInt8)
  /-- The frames have come to their end. -/
  | closed
  | failed (e : FrameError)
  /-- Anything that has nothing to do with what arrives. -/
  | other (x : Step)

/-- What a step comes to. One that only waits for more bytes comes to nothing. -/
def deed? (s : Server) : Step → Option Deed
  | .receive _ => none
  | .endInput => none
  | .read =>
    match s.phase with
    | .reading =>
      match Frame.read s.inputEnded s.input with
      | .more => none
      | .closed => some .closed
      | .failed e => some (.failed e)
      | .body bytes _ => some (.frame bytes)
    | _ => none
  | x => some (.other x)

/-- A server after a deed, and what is to be done outside. -/
def does (s : Server) : Deed → Server × List Order
  | .frame body => s.follow (s.session.hear body)
  | .closed => (s.leave (.ok ()), [])
  | .failed e => (s.leave (.error e), [])
  | .other x => s.step x

/-! ## Without the input -/

/-- The same server with other bytes to read. -/
def withInput (s : Server) (input : List UInt8) (inputEnded : Bool) : Server :=
  { s with input, inputEnded }

/-- The same server with nothing to read. -/
def bare (s : Server) : Server := s.withInput [] false

section WithInput

variable (s : Server) (input : List UInt8) (inputEnded : Bool)

theorem inTurn_withInput {α : Type} {act : Server → α → Server × List Order}
    (hact : ∀ s a, act (s.withInput input inputEnded) a =
      ((act s a).1.withInput input inputEnded, (act s a).2)) (things : List α) :
    inTurn act (s.withInput input inputEnded) things =
      ((inTurn act s things).1.withInput input inputEnded, (inTurn act s things).2) := by
  induction things using List.reverseRecOn with
  | nil => rfl
  | append_singleton things a ih => rw [inTurn_concat, inTurn_concat, ih, hact]

theorem absorb_withInput (r : Workspace × List Effect) :
    (s.withInput input inputEnded).absorb r =
      ((s.absorb r).1.withInput input inputEnded, (s.absorb r).2) :=
  inTurn_withInput { s with workspace := r.1 } input inputEnded
    (fun _ e => by cases e <;> rfl) r.2

theorem follow_withInput (r : Session × List Outcome) :
    (s.withInput input inputEnded).follow r =
      ((s.follow r).1.withInput input inputEnded, (s.follow r).2) := by
  refine inTurn_withInput { s with session := r.1 } input inputEnded (fun s o => ?_) r.2
  cases o with
  | answer id body =>
    simp only [carryOut, withInput]
    split <;> rfl
  | _ => rfl

/-- Whether a step has nothing to do with what arrives. -/
def Step.Apart : Step → Prop
  | .receive _ | .endInput | .read => False
  | _ => True

theorem step_withInput {x : Step} (hx : x.Apart) : (s.withInput input inputEnded).step x =
    ((s.step x).1.withInput input inputEnded, (s.step x).2) := by
  obtain ⟨session, events, workspace, connection, answers, _, _, phase⟩ := s
  cases x with
  | receive bytes => exact hx.elim
  | endInput => exact hx.elim
  | read => exact hx.elim
  | elapse ms => rfl
  | written r => rfl
  | lookedUp found => exact absorb_withInput _ input inputEnded _
  | ended id outcome => exact absorb_withInput _ input inputEnded _
  | installed r => exact absorb_withInput _ input inputEnded _
  | advance id => exact absorb_withInput _ input inputEnded _
  | handle =>
    cases events with
    | nil => rfl
    | cons e rest => exact absorb_withInput ⟨_, rest, _, _, _, _, _, _⟩ input inputEnded _
  | deliver =>
    cases answers with
    | nil => rfl
    | cons a rest => exact absorb_withInput ⟨_, _, _, _, rest, _, _, _⟩ input inputEnded _
  | fire =>
    simp only [step, withInput]
    cases session.fire? <;> rfl
  | stop => cases phase <;> cases events <;> rfl
  | write =>
    simp only [step, writeNext, withInput]
    rcases connection.next? with _ | ⟨c, _ | frame⟩ <;> rfl
  | finish =>
    cases phase with
    | stopping r => cases hopen : connection.isOpen <;> simp [step, withInput, hopen]
    | _ => rfl

end WithInput

/-! ## Deeds -/

/-- A deed that has nothing to do with what arrives, if it is a step at all. -/
def Deed.Apart : Deed → Prop
  | .other x => x.Apart
  | _ => True

theorem apart_of_deed? {s : Server} {x : Step} {d : Deed} (h : s.deed? x = some d) : d.Apart := by
  cases x with
  | receive bytes => cases h
  | endInput => cases h
  | read =>
    simp only [deed?] at h
    split at h
    · split at h <;> cases h <;> trivial
    · cases h
  | _ => cases h; trivial

theorem does_withInput (s : Server) {d : Deed} (hd : d.Apart) (input : List UInt8)
    (inputEnded : Bool) : (s.withInput input inputEnded).does d =
      ((s.does d).1.withInput input inputEnded, (s.does d).2) := by
  cases d with
  | frame body => exact follow_withInput s input inputEnded _
  | closed => rfl
  | failed e => rfl
  | other x => exact step_withInput s input inputEnded hd

theorem bare_step_of_none {s : Server} {x : Step} (h : s.deed? x = none) :
    (s.step x).1.bare = s.bare ∧ (s.step x).2 = [] := by
  cases x with
  | receive bytes => exact ⟨rfl, rfl⟩
  | endInput => exact ⟨rfl, rfl⟩
  | read =>
    simp only [deed?] at h
    simp only [step, readFrame]
    cases hphase : s.phase with
    | reading =>
      cases hread : Frame.read s.inputEnded s.input with
      | more => exact ⟨rfl, rfl⟩
      | _ => simp [hphase, hread] at h
    | _ => exact ⟨rfl, rfl⟩
  | _ => cases h

/-- **A step does its deed**, and apart from that it only takes bytes. -/
theorem bare_step {s : Server} {x : Step} {d : Deed} (h : s.deed? x = some d) :
    (s.step x).1.bare = (s.does d).1.bare ∧ (s.step x).2 = (s.does d).2 := by
  cases x with
  | receive bytes => cases h
  | endInput => cases h
  | read =>
    obtain ⟨session, events, workspace, connection, answers, input, inputEnded, phase⟩ := s
    cases phase with
    | reading =>
      simp only [deed?] at h
      simp only [step, readFrame]
      cases hread : Frame.read inputEnded input with
      | more => rw [hread] at h; cases h
      | closed => rw [hread] at h; cases h; exact ⟨rfl, rfl⟩
      | failed e => rw [hread] at h; cases h; exact ⟨rfl, rfl⟩
      | body bytes rest =>
        rw [hread] at h
        cases h
        have hfollow := follow_withInput
          ⟨session, events, workspace, connection, answers, input, inputEnded, .reading⟩ rest
          inputEnded (session.hear bytes)
        have hbare := congrArg (fun r => r.1.bare) hfollow
        have horders := congrArg Prod.snd hfollow
        exact ⟨hbare, horders⟩
    | _ => cases h
  | _ => cases h; exact ⟨rfl, rfl⟩

/-! ## Events and their times -/

/-- The events that are emitted in a row of things, each with the time at which that happens. -/
def emissions {α : Type} (act : Server → α → Server × List Order) (s : Server) :
    List α → List (Nat × EditorEvent)
  | [] => []
  | a :: as =>
    ((act s a).1.events.drop s.events.length).map (fun e => (s.session.clock, e)) ++
      emissions act (act s a).1 as

end Server

end LintServer
