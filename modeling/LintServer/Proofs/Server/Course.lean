import LintServer.Proofs.Connection.Requests
import LintServer.Proofs.Server.Deeds
import LintServer.Proofs.Server.Probing

/-!
# The course of the warning

The warning about a missing runner is a request to the editor, and its answer comes back in a frame
that is read like all others. A second request, for the help page, comes of the right answer only.

* `Server.Reads`, `Answers`, `Helps`: a frame is read, it answers a request, it asks for help;
* `Server.posted`, `Server.Posted`: the frames that the writer has taken and those in line;
* **`Server.Course`**: how far the warning has come, and what has been asked of the editor for it;
* `Course.part`, `Course.help_of_mem`, `Course.of_pending`, `Course.of_choice`: what that says.
-/

namespace LintServer

/-- The answer that an action brings. -/
def Action.choice? : Action → Option (Except HostError (Option Nat))
  | answered choice => some choice
  | _ => none

namespace Server

open Outgoing (question page)

/-! ## Frames that are read -/

/-- A frame is read. -/
def Reads (frame : Json) (s : Server) (x : Step) : Prop :=
  ∃ body, s.deed? x = some (.frame body) ∧ Json.ofBytes? body = some frame

/-- A response is read to a request that waits for one. -/
def Answers (id : Nat) (n : Notification) (frame : Json) (s : Server) (x : Step) : Prop :=
  s.Reads frame x ∧ Incoming.ofFrame? frame = some (.response id frame) ∧
    s.connection.pending.get? id = some n

/-- The user asks for help: the response carries no error, and the action that it names is the one
that shows the configuration. -/
def Helps (n : Notification) (s : Server) (x : Step) : Prop :=
  ∃ frame, s.Answers 1 n frame x ∧ frame.get? "error" = none ∧
    (frame.get? "result").bind (Json.textAt? "title") = some "Help"

/-- The frames that the writer has taken in some steps, and those that wait in line behind them. -/
def posted (s : Server) (xs : List Step) : List Json :=
  (inTurn step s xs).2.filterMap Order.frame? ++ (inTurn step s xs).1.connection.frames

/-- A frame has been sent. -/
def Posted (s : Server) (xs : List Step) (f : Json) : Prop := ∃ ys, ys <+: xs ∧ f ∈ s.posted ys

theorem Posted.concat {s : Server} {xs : List Step} {f : Json} (h : s.Posted xs f) (x : Step) :
    s.Posted (xs ++ [x]) f := by
  obtain ⟨ys, hys, hf⟩ := h
  exact ⟨ys, hys.trans (List.prefix_append xs [x]), hf⟩

/-- The answers to the warning that the linter has not taken. -/
def choices (s : Server) : List (Except HostError (Option Nat)) :=
  s.answers.filterMap Action.choice?

/-! ## The course of the warning -/

/-- How far the warning has come, what of it waits in the server, and the requests that have been
wanted for it. Each stage has its reason: the runner is `missing`, the editor has been `asked`, the
user wants `help`. -/
inductive Course (n : Notification) (page? : Option Json) (missing asked help : Prop)
    (c : Connection) : Warning → List (Except HostError (Option Nat)) → List Json → Prop where
  | unsent (hrequests : c.requests = 0) (hpending : ∀ id, c.pending.get? id = none) :
      Course n page? missing asked help c .unsent [] []
  | waiting (hmissing : missing) (hasked : asked) (hrequests : c.requests = 1)
      (hpending : ∀ id, c.pending.get? id = if id = 1 then some n else none) :
      Course n page? missing asked help c .shown [] [question 1 n]
  | chosen (choice : Except HostError (Option Nat)) (hmissing : missing)
      (hrequests : c.requests = 1) (hpending : ∀ id, c.pending.get? id = none)
      (hhelp : choice = .ok (some Linter.helpAction) → help) :
      Course n page? missing asked help c .shown [choice] [question 1 n]
  | left (hmissing : missing) (hpending : ∀ id, c.pending.get? id = none) :
      Course n page? missing asked help c .answered [] [question 1 n]
  | helped (hmissing : missing) (hhelp : help) (hpending : ∀ id, c.pending.get? id = none) :
      Course n page? missing asked help c .answered [] (question 1 n :: page?.toList)

section Course

variable {n : Notification} {page? : Option Json} {missing asked help : Prop} {c c' : Connection}
  {w : Warning} {choices : List (Except HostError (Option Nat))} {wanted : List Json}

theorem Course.mono {missing' asked' help' : Prop}
    (h : Course n page? missing asked help c w choices wanted) (hmissing' : missing → missing')
    (hasked' : asked → asked') (hhelp' : help → help') (hrequests' : c'.requests = c.requests)
    (hpending' : c'.pending = c.pending) :
    Course n page? missing' asked' help' c' w choices wanted := by
  cases h with
  | unsent hrequests hpending =>
    exact .unsent (hrequests'.trans hrequests) (hpending' ▸ hpending)
  | waiting hmissing hasked hrequests hpending =>
    exact .waiting (hmissing' hmissing) (hasked' hasked) (hrequests'.trans hrequests)
      (hpending' ▸ hpending)
  | chosen choice hmissing hrequests hpending hhelp =>
    exact .chosen choice (hmissing' hmissing) (hrequests'.trans hrequests) (hpending' ▸ hpending)
      fun hc => hhelp' (hhelp hc)
  | left hmissing hpending => exact .left (hmissing' hmissing) (hpending' ▸ hpending)
  | helped hmissing hhelp hpending =>
    exact .helped (hmissing' hmissing) (hhelp' hhelp) (hpending' ▸ hpending)

/-- Only the two requests are ever wanted, one after the other. -/
theorem Course.part (h : Course n page? missing asked help c w choices wanted) :
    wanted <+: question 1 n :: page?.toList := by
  cases h with
  | unsent hrequests hpending => exact List.nil_prefix
  | helped hmissing hhelp hpending => exact List.prefix_refl _
  | _ => exact List.prefix_append [question 1 n] page?.toList

theorem Course.missing_of_ne_nil (h : Course n page? missing asked help c w choices wanted)
    (hne : wanted ≠ []) : missing := by
  cases h with
  | unsent hrequests hpending => exact absurd rfl hne
  | _ => assumption

theorem Course.help_of_mem (h : Course n page? missing asked help c w choices wanted) {f : Json}
    (hf : f ∈ wanted) (hne : f ≠ question 1 n) : help := by
  cases h with
  | unsent hrequests hpending => exact absurd hf List.not_mem_nil
  | helped hmissing hhelp hpending => exact hhelp
  | _ => exact absurd (List.mem_singleton.1 hf) hne

/-- Nothing waits for an answer but the warning, once the editor has been asked. -/
theorem Course.of_pending (h : Course n page? missing asked help c w choices wanted) {id : Nat}
    {n' : Notification} (hget : c.pending.get? id = some n') :
    id = 1 ∧ n' = n ∧ asked ∧ w = .shown ∧ choices = [] ∧ wanted = [question 1 n] ∧ missing ∧
      c.requests = 1 ∧ ∀ id', (c.pending.erase id).get? id' = none := by
  cases h with
  | waiting hmissing hasked hrequests hpending =>
    have hwaits := hpending id
    rw [hget] at hwaits
    split_ifs at hwaits with hid
    refine ⟨hid, Option.some.inj hwaits, hasked, rfl, rfl, rfl, hmissing, hrequests, fun id' => ?_⟩
    rw [Table.get?_erase, hpending, hid]
    split_ifs <;> rfl
  | unsent hrequests hpending => rw [hpending] at hget; cases hget
  | chosen choice hmissing hrequests hpending hhelp => rw [hpending] at hget; cases hget
  | left hmissing hpending => rw [hpending] at hget; cases hget
  | helped hmissing hhelp hpending => rw [hpending] at hget; cases hget

/-- An answer that waits is the only one. -/
theorem Course.of_choice {choice : Except HostError (Option Nat)}
    (h : Course n page? missing asked help c w (choice :: choices) wanted) :
    w = .shown ∧ choices = [] ∧ wanted = [question 1 n] ∧ missing ∧ c.requests = 1 ∧
      (∀ id, c.pending.get? id = none) ∧ (choice = .ok (some Linter.helpAction) → help) := by
  cases h with
  | chosen choice hmissing hrequests hpending hhelp =>
    exact ⟨rfl, rfl, rfl, hmissing, hrequests, hpending, hhelp⟩

theorem Course.of_unsent (h : Course n page? missing asked help c .unsent choices wanted) :
    choices = [] ∧ wanted = [] ∧ c.requests = 0 ∧ ∀ id, c.pending.get? id = none := by
  cases h with
  | unsent hrequests hpending => exact ⟨rfl, rfl, hrequests, hpending⟩

end Course

end Server

end LintServer
