import LintServer.Proofs.Server.Ending

/-!
# Every request is answered once

What holds behind each step holds in any steps, however the parts of a server take turns: a request
of the editor gets one reply, and the reply is written before the writer stops.

* `answering_start`, `answering_inTurn`: what has been read and answered in any steps;
* `Answering.replies_of_stopped`: all replies have been written when the writer stops;
* **`requests_answered_once`**: from the bytes that arrive to the frames that are written.
-/

namespace LintServer

namespace Server

variable {s : Server} {xs ys : List Step} {orders : List Order} {read : List Json}

/-! ## Steps on the way to the end -/

theorem received_append_clears (h : ∀ y ∈ ys, y.Clears) : received (xs ++ ys) = received xs := by
  have hnone : received ys = [] := List.flatMap_eq_nil_iff.2 fun y hy => (h y hy).bytes
  rw [received, List.flatMap_append, ← received, ← received, hnone, List.append_nil]

theorem pairwise_append_clears (hend : xs.Pairwise fun x y => x = .endInput → y.bytes = [])
    (h : ∀ y ∈ ys, y.Clears) : (xs ++ ys).Pairwise fun x y => x = .endInput → y.bytes = [] :=
  List.pairwise_append.2 ⟨hend, List.pairwise_of_forall_mem_list fun _ _ y hy _ => (h y hy).bytes,
    fun _ _ y hy _ => (h y hy).bytes⟩

/-! ## Runs -/

theorem Answering.frames_eq (h : s.Answering xs orders read) :
    Session.heard (Frame.readAll (received xs)) = read ++ s.unheard [] := by
  have hheard := h.heard [] fun _ => rfl
  rwa [List.append_nil] at hheard

theorem answering_start (settings : Settings) (configPath : Option Path) (installed : Bool) :
    (start settings configPath installed).1.Answering [] [] [] := by
  have howes : (Connection.start configPath).Owes False
      (∃ f, .written (.error f) ∈ ([] : List Step)) [] [] :=
    .of_open rfl rfl (iff_of_false List.not_mem_nil id)
  let w := Workspace.start (Linter.start settings.validator installed).1
  let s : Server := ⟨.start settings.quiet, [], w, .start configPath, [], [], false, .reading⟩
  have hstart : start settings configPath installed =
      s.absorb (w, (Linter.start settings.validator installed).2) := rfl
  rw [hstart]
  refine ⟨?_, fun _ => ?_, fun more _ => ?_, fun he => ?_⟩
  · rw [absorb_phase]
    exact owes_absorb s _ howes
  · rw [absorb_session]
    rfl
  · rw [unheard, absorb_phase, absorb_input]
    rfl
  · rw [absorb_inputEnded] at he
    cases he

theorem answering_inTurn (h : s.Answering [] [] [])
    (hend : xs.Pairwise fun x y => x = .endInput → y.bytes = []) :
    ∃ read, (inTurn Server.step s xs).1.Answering xs (inTurn Server.step s xs).2 read := by
  induction xs using List.reverseRecOn with
  | nil => exact ⟨[], h⟩
  | append_singleton xs x ih =>
    obtain ⟨hxs, -, hx⟩ := List.pairwise_append.1 hend
    obtain ⟨read, hread⟩ := ih hxs
    obtain ⟨new, hnew⟩ := hread.step fun he => hx .endInput he x List.mem_cons_self rfl
    rw [inTurn_concat]
    exact ⟨read ++ new, hnew⟩

/-- When the writer stops and no write has failed, all replies have been written. -/
theorem Answering.replies_of_stopped (h : s.Answering xs orders read)
    (hok : ∀ f, .written (.error f) ∉ xs) (hstopped : s.connection.writer = .stopped) :
    (orders.filterMap Order.frame?).filter Outgoing.isReply =
      Request.due (Session.heard (Frame.readAll (received xs))) := by
  have hnone : ¬ ∃ f, .written (.error f) ∈ xs := fun ⟨f, hf⟩ => hok f hf
  have hclosed : s.connection.isOpen = false := by rw [Connection.isOpen, hstopped]; rfl
  have htold := h.owes.stopped hclosed hnone
  have hunheard : s.unheard [] = [] := by
    refine if_neg fun hreading => ?_
    rw [hreading] at htold
    exact htold
  have hdue := h.owes.eq_due (.inr hnone)
  rw [Connection.ahead, h.owes.line_empty hclosed] at hdue
  rw [h.frames_eq, hunheard, List.append_nil, ← hdue]
  exact congrArg _ (List.append_nil _).symm

/-- **Every request is answered once**, in order and with its id. All replies have been written when
the writer stops, unless a write has failed, and a server can always get that far. -/
theorem requests_answered_once (settings : Settings) (configPath : Option Path) (installed : Bool)
    (hrun : inTurn Server.step (start settings configPath installed).1 xs = (s, orders))
    (hend : xs.Pairwise fun x y => x = .endInput → y.bytes = []) :
    let frames := Session.heard (Frame.readAll (received xs))
    let written := orders.filterMap Order.frame?
    (∀ late r, Request.AnsweredBy r late (r.reply late)) ∧
      written.filter Outgoing.isReply <+: Request.due frames ∧
      ((∀ f, .written (.error f) ∉ xs) →
        (∃ read, frames = read ++ s.unheard [] ∧
          (written ++ s.connection.ahead).filter Outgoing.isReply = Request.due read) ∧
        (s.connection.writer = .stopped →
          written.filter Outgoing.isReply = Request.due frames) ∧
        (s.inputEnded = true ∨ s.phase ≠ .reading → ∃ ys, (∀ y ∈ ys, y.Clears) ∧
          (inTurn Server.step s ys).1.connection.writer = .stopped ∧
          (written ++ (inTurn Server.step s ys).2.filterMap Order.frame?).filter Outgoing.isReply =
            Request.due frames)) := by
  intro frames written
  obtain ⟨read, h⟩ := answering_inTurn (answering_start settings configPath installed) hend
  rw [hrun] at h
  refine ⟨Request.answeredBy_reply, ?_, fun hok => ⟨⟨read, h.frames_eq, ?_⟩, ?_, fun hover => ?_⟩⟩
  · calc written.filter Outgoing.isReply
        <+: (written ++ s.connection.ahead).filter Outgoing.isReply :=
          (List.prefix_append _ _).filter _
      _ <+: Request.due read := h.owes.is_prefix
      _ <+: Request.due frames := by
          rw [show frames = _ from h.frames_eq, Request.due_append]
          exact List.prefix_append _ _
  · exact h.owes.eq_due (.inr fun ⟨f, hf⟩ => hok f hf)
  · exact h.replies_of_stopped hok
  · obtain ⟨_, ⟨ys, hys, rfl⟩, hstopped⟩ := h.reaches_stopped hover
    refine ⟨ys, hys, hstopped, ?_⟩
    have hrun' : inTurn Server.step (start settings configPath installed).1 (xs ++ ys) =
        ((inTurn Server.step s ys).1, orders ++ (inTurn Server.step s ys).2) := by
      rw [inTurn_append, hrun]
    obtain ⟨_, h'⟩ := answering_inTurn (answering_start settings configPath installed)
      (pairwise_append_clears hend hys)
    rw [hrun'] at h'
    have hok' : ∀ f, .written (.error f) ∉ xs ++ ys := fun f hf => by
      rcases List.mem_append.1 hf with hf | hf
      · exact hok f hf
      · cases hys _ hf
    have hdue := h'.replies_of_stopped hok' hstopped
    rwa [List.filterMap_append, received_append_clears hys] at hdue

set_option maxRecDepth 4000 in
/-- Requests around a shutdown, with a body that is no JSON text between them. The writer stops
behind the last reply. -/
theorem late_request_answered :
    let settings : Settings :=
      ⟨⟨"jsonlint", "npx", "npm", [], ⟨"/tmp"⟩, "json", by decide, by decide, by decide, by decide⟩,
        300⟩
    let input := "Content-Length:21\n\n\x7b\"id\":[],\"method\":\"\"\x7d" ++
      "Content-Length:1\n\n\x7b" ++
      "Content-Length:31\n\n\x7b\"id\":null,\"method\":\"shutdown\"\x7d" ++
      "Content-Length:20\n\n\x7b\"id\":0,\"method\":\"\"\x7d"
    let xs : List Step := [.receive (Text.Utf8.encode input.toList), .endInput, .read, .write,
      .read, .read, .read, .written (.ok ()), .read, .stop, .write, .written (.ok ()), .write,
      .written (.ok ()), .write]
    let r := inTurn Server.step (start settings none true).1 xs
    let frames := Session.heard (Frame.readAll (received xs))
    (Request.among frames).map Request.method = ["", "shutdown", ""] ∧
      (r.2.filterMap Order.frame?).filter Outgoing.isReply = Request.due frames := by
  intro settings input xs r frames
  have hstopped : r.1.connection.writer = .stopped ∧
      (Request.among frames).map Request.method = ["", "shutdown", ""] := by
    decide +kernel
  have hend : xs.Pairwise fun x y => x = .endInput → y.bytes = [] := by
    simp [xs, Step.bytes]
  have hok : ∀ f, .written (.error f) ∉ xs := by
    simp [xs]
  rcases hrun : inTurn Server.step (start settings none true).1 xs with ⟨s, orders⟩
  have hr : r = (s, orders) := hrun
  rw [hr] at hstopped ⊢
  have hanswered := (requests_answered_once settings none true hrun hend).2.2 hok
  exact ⟨hstopped.2, hanswered.2.1 hstopped.1⟩

end Server

end LintServer
