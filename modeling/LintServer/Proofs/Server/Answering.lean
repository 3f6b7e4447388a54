import LintServer.Proofs.Connection.Replies
import LintServer.Proofs.Server.Agreement

/-!
# Requests and their replies

Frames are read one after the other while the session lasts, each request puts its reply in line,
and the writer takes the line from the front. Diagnostics, requests of the server and the sign to
stop stand in the same line, but none of them takes the place of a reply.

* `Server.received`, `Server.unheard`: the bytes of some steps, and the frames still to be read;
* `absorb_input`, `follow_phase`, `owes_absorb`, `owes_follow`: what the parts of a step do;
* **`Server.Answering`**: the requests that have been read against the replies;
* `Answering.absorb`, `Answering.follow`, `Answering.readFrame`, **`Answering.step`**: one step.
-/

namespace LintServer

/-- Whether the writer has been told to stop. -/
def Phase.Told : Phase → Prop
  | .reading | .over _ => False
  | .stopping _ | .ended _ => True

namespace Server

variable {s : Server}

/-- The frame that is to be written. -/
def Order.frame? : Order → Option Json
  | write frame => some frame
  | _ => none

/-- The bytes that arrive in a step. -/
def Step.bytes : Step → List UInt8
  | receive bytes => bytes
  | _ => []

/-- The bytes that arrive in some steps. -/
def received (xs : List Step) : List UInt8 := xs.flatMap Step.bytes

/-- The frames that have not been read and will be, if more bytes arrive. -/
def unheard (s : Server) (more : List UInt8) : List Json :=
  if s.phase = .reading then Session.heard (Frame.readAll (s.input ++ more)) else []

/-! ## Parts of a step -/

section Absorb

variable (s : Server) (r : Workspace × List Effect)

@[simp] theorem absorb_input : (s.absorb r).1.input = s.input :=
  inTurn_same input (fun _ e => by cases e <;> rfl) _ _

@[simp] theorem absorb_inputEnded : (s.absorb r).1.inputEnded = s.inputEnded :=
  inTurn_same inputEnded (fun _ e => by cases e <;> rfl) _ _

theorem frames_absorb : (s.absorb r).2.filterMap Order.frame? = [] := by
  rw [absorb_orders, List.filterMap_filterMap]
  refine List.filterMap_eq_nil_iff.2 fun e _ => ?_
  cases e <;> rfl

theorem owes_absorb {told failed : Prop} {taken due : List Json}
    (h : s.connection.Owes told failed taken due) :
    (s.absorb r).1.connection.Owes told failed taken due := by
  refine inTurn_keeps (s := { s with workspace := r.1 })
    (P := fun s' => s'.connection.Owes told failed taken due) (fun s' e ho => ?_) h _
  cases e with
  | tell n => exact ho.tell n
  | notify n => exact ho.notify n
  | showConfig => exact ho.showConfig
  | _ => exact ho

end Absorb

section Follow

variable (s : Server) (r : Session × List Outcome)

theorem follow_stream :
    ((s.follow r).1.input, (s.follow r).1.inputEnded) = (s.input, s.inputEnded) := by
  refine inTurn_same (fun s => (s.input, s.inputEnded)) (fun s o => ?_) _ _
  cases o with
  | answer id body =>
    simp only [carryOut]
    split <;> rfl
  | _ => rfl

@[simp] theorem follow_input : (s.follow r).1.input = s.input :=
  congrArg Prod.fst (follow_stream s r)

@[simp] theorem follow_inputEnded : (s.follow r).1.inputEnded = s.inputEnded :=
  congrArg Prod.snd (follow_stream s r)

theorem frames_follow : (s.follow r).2.filterMap Order.frame? = [] := by
  refine List.filterMap_eq_nil_iff.2 fun o ho => ?_
  obtain ⟨e, rfl⟩ := log_of_mem_follow s r ho
  rfl

/-- The session is over when one of the outcomes says so. -/
theorem follow_phase :
    (s.follow r).1.phase = if r.2.any Outcome.exits then .over (.ok ()) else s.phase := by
  unfold follow
  induction r.2 using List.reverseRecOn with
  | nil => rfl
  | append_singleton os o ih =>
    rw [inTurn_concat, List.any_append]
    cases o with
    | answer id body =>
      simp only [carryOut, Outcome.exits, List.any_cons, List.any_nil, Bool.or_false]
      split <;> exact ih
    | exit => simp [carryOut, leave, Outcome.exits]
    | _ => simpa [carryOut, Outcome.exits] using ih

theorem owes_follow {failed : Prop} {taken due : List Json}
    (h : s.connection.Owes False failed taken due) :
    (s.follow r).1.connection.Owes False failed taken
      (due ++ (r.2.filterMap Outcome.reply?).filter Outgoing.isReply) := by
  unfold follow
  induction r.2 using List.reverseRecOn with
  | nil =>
    rw [List.filterMap_nil, List.filter_nil, List.append_nil]
    exact h
  | append_singleton os o ih =>
    rw [inTurn_concat, List.filterMap_append, List.filter_append, ← List.append_assoc]
    cases o with
    | reply f => exact ih.send id f
    | answer id body =>
      rw [show [Outcome.answer id body].filterMap Outcome.reply? = [] from rfl, List.filter_nil,
        List.append_nil]
      simp only [carryOut]
      split
      · exact ih.answer (by assumption)
      · exact ih
    | _ =>
      refine Eq.subst (motive := fun l => Connection.Owes _ _ _ _ l) (List.append_nil _).symm ?_
      exact ih

end Follow

/-! ## Requests and replies -/

/-- **What has been read and what has been answered** in some steps: the replies to the requests
that have been read are due, and what has not been read is left for later, or for nobody. -/
structure Answering (s : Server) (xs : List Step) (orders : List Order) (read : List Json) :
    Prop where
  owes : s.connection.Owes s.phase.Told (∃ f, .written (.error f) ∈ xs)
    (orders.filterMap Order.frame?) (Request.due read)
  late : s.phase = .reading →
    s.session.shuttingDown = (Request.among read).any Request.isShutdown
  heard : ∀ more, (s.inputEnded = true → more = []) →
    Session.heard (Frame.readAll (received xs ++ more)) = read ++ s.unheard more
  ended : s.inputEnded = true → .endInput ∈ xs

variable {xs : List Step} {orders : List Order} {read : List Json} {x : Step}

theorem received_concat (xs : List Step) (x : Step) :
    received (xs ++ [x]) = received xs ++ x.bytes := by
  rw [received, List.flatMap_append, List.flatMap_singleton, received]

namespace Answering

theorem reads_nothing (h : s.Answering xs orders read) :
    ∃ new, s.Answering xs orders (read ++ new) :=
  ⟨[], (List.append_nil read).symm ▸ h⟩

theorem aside (h : s.Answering xs orders read) {s' : Server} {new : List Order}
    (hbytes : x.bytes = []) (hinput : s'.input = s.input) (hended : s'.inputEnded = s.inputEnded)
    (hphase : s'.phase = .reading ↔ s.phase = .reading)
    (hlate : s'.session.shuttingDown = s.session.shuttingDown)
    (howes : s'.connection.Owes s'.phase.Told (∃ f, .written (.error f) ∈ xs ++ [x])
      (orders.filterMap Order.frame? ++ new.filterMap Order.frame?) (Request.due read)) :
    s'.Answering (xs ++ [x]) (orders ++ new) read where
  owes := by
    rw [List.filterMap_append]
    exact howes
  late hr := hlate.trans (h.late (hphase.1 hr))
  heard more hmore := by
    have hunheard : s'.unheard more = s.unheard more := by
      unfold unheard
      rw [hinput]
      exact if_congr hphase rfl rfl
    rw [received_concat, hbytes, List.append_nil, hunheard]
    exact h.heard more (hended ▸ hmore)
  ended he := List.mem_append_left _ (h.ended (hended ▸ he))

theorem failed_concat (xs : List Step) (x : Step) (h : ∃ f, .written (.error f) ∈ xs) :
    ∃ f, .written (.error f) ∈ xs ++ [x] :=
  h.imp fun _ hf => List.mem_append_left _ hf

theorem idle (h : s.Answering xs orders read) {s' : Server} {new : List Order}
    (hbytes : x.bytes = []) (hinput : s'.input = s.input) (hended : s'.inputEnded = s.inputEnded)
    (hphase : s'.phase = s.phase) (hlate : s'.session.shuttingDown = s.session.shuttingDown)
    (hconnection : s'.connection = s.connection) (hnew : new.filterMap Order.frame? = []) :
    s'.Answering (xs ++ [x]) (orders ++ new) read := by
  refine h.aside hbytes hinput hended (by rw [hphase]) hlate ?_
  rw [hconnection, hphase, hnew, List.append_nil]
  exact h.owes.mono Iff.rfl (failed_concat xs x)

theorem turn (h : s.Answering xs orders read) {c : Connection} {p : Phase} (hbytes : x.bytes = [])
    (hbefore : s.phase ≠ .reading) (hbehind : p ≠ .reading)
    (howes : c.Owes p.Told (∃ f, .written (.error f) ∈ xs ++ [x]) (orders.filterMap Order.frame?)
      (Request.due read)) :
    Answering { s with connection := c, phase := p } (xs ++ [x]) (orders ++ []) read := by
  refine h.aside hbytes rfl rfl (iff_of_false hbehind hbefore) rfl ?_
  rw [List.filterMap_nil, List.append_nil]
  exact howes

theorem absorb (h : s.Answering xs orders read) (hbytes : x.bytes = [])
    (events : List EditorEvent) (answers : List Action) (r : Workspace × List Effect) :
    ({ s with events, answers }.absorb r).1.Answering (xs ++ [x])
      (orders ++ ({ s with events, answers }.absorb r).2) read := by
  refine h.aside hbytes (absorb_input _ _) (absorb_inputEnded _ _) (by rw [absorb_phase])
    (by rw [absorb_session]) ?_
  rw [absorb_phase, frames_absorb, List.append_nil]
  exact owes_absorb { s with events, answers } r (h.owes.mono Iff.rfl (failed_concat xs x))

/-! ## Frames -/

theorem follow (h : s.Answering xs orders read) (hbytes : x.bytes = [])
    (hreading : s.phase = .reading) {input : List UInt8} {r : Session × List Outcome}
    {request? : Option Request} {exits : Bool} (hr : s.session.Replies request? exits r) {new : List Json}
    (hnew : Request.among new = request?.toList)
    (hheard : ∀ more, (s.inputEnded = true → more = []) →
      Session.heard (Frame.readAll (s.input ++ more)) =
        new ++ if exits then [] else Session.heard (Frame.readAll (input ++ more))) :
    ({ s with input }.follow r).1.Answering (xs ++ [x])
      (orders ++ ({ s with input }.follow r).2) (read ++ new) := by
  have hlate := h.late hreading
  have hphase : ({ s with input }.follow r).1.phase =
      if exits then .over (.ok ()) else .reading := by
    rw [follow_phase, hr.exits, hreading]
  refine ⟨?_, fun hstill => ?_, fun more hmore => ?_, fun he => ?_⟩
  · have howes := h.owes
    rw [hreading] at howes
    have hreplies : (r.2.filterMap Outcome.reply?).filter Outgoing.isReply =
        Request.replies ((Request.among read).any Request.isShutdown) (Request.among new) := by
      rw [hr.replies, hnew, hlate]
      cases request? with
      | none => rfl
      | some q => exact List.filter_cons_of_pos (Request.isReply_reply _ q)
    have hfollow := owes_follow { s with input } r howes
    rw [hreplies, ← Request.due_append] at hfollow
    rw [List.filterMap_append, frames_follow, List.append_nil]
    refine hfollow.mono ?_ (failed_concat xs x)
    rw [hphase]
    cases exits <;> rfl
  · obtain ⟨_, hsession⟩ := follow_reading _ _ hstill
    rw [hsession, hr.shuttingDown, hlate, Request.among_append, List.any_append, hnew]
    cases request? <;> simp
  · rw [follow_inputEnded] at hmore
    rw [received_concat, hbytes, List.append_nil, h.heard more hmore, unheard, if_pos hreading,
      hheard more hmore, List.append_assoc, unheard, hphase, follow_input]
    cases exits <;> rfl
  · rw [follow_inputEnded] at he
    exact List.mem_append_left _ (h.ended he)

theorem leave (h : s.Answering xs orders read) (hbytes : x.bytes = [])
    (hreading : s.phase = .reading) (r : Except FrameError Unit)
    (hheard : ∀ more, (s.inputEnded = true → more = []) →
      Session.heard (Frame.readAll (s.input ++ more)) = []) :
    (s.leave r).Answering (xs ++ [x]) (orders ++ []) read where
  owes := by
    have howes := h.owes
    rw [hreading] at howes
    rw [List.append_nil]
    exact howes.mono Iff.rfl (failed_concat xs x)
  late hstill := by cases hstill
  heard more hmore := by
    rw [received_concat, hbytes, List.append_nil, h.heard more hmore, unheard, if_pos hreading,
      hheard more hmore]
    rfl
  ended he := List.mem_append_left _ (h.ended he)

theorem readFrame (h : s.Answering xs orders read) (hreading : s.phase = .reading) :
    ∃ new, s.readFrame.1.Answering (xs ++ [.read]) (orders ++ s.readFrame.2) (read ++ new) := by
  have hbytes : Step.read.bytes = [] := rfl
  unfold Server.readFrame
  by_cases hwait : Frame.read s.inputEnded s.input = .more
  · rw [hwait]
    exact reads_nothing (h.idle hbytes rfl rfl rfl rfl rfl rfl)
  · have hheard : ∀ more, (s.inputEnded = true → more = []) → _ := fun more =>
      Session.heard_readAll hwait
    cases hread : Frame.read s.inputEnded s.input with
    | more => exact absurd hread hwait
    | closed =>
      rw [hread] at hheard
      exact reads_nothing (h.leave hbytes hreading _ hheard)
    | failed e =>
      rw [hread] at hheard
      exact reads_nothing (h.leave hbytes hreading _ hheard)
    | body body rest =>
      rw [hread] at hheard
      dsimp only at hheard ⊢
      cases hbody : Json.ofBytes? body with
      | none =>
        rw [hbody] at hheard
        exact ⟨[], h.follow hbytes hreading s.session.replies_malformed rfl hheard⟩
      | some frame =>
        rw [hbody] at hheard
        have hreceive := s.session.replies_receive frame
        exact ⟨[frame], h.follow hbytes hreading hreceive (Request.among_singleton frame) hheard⟩

/-! ## Steps -/

theorem takeWritten (h : s.Answering xs orders read) (r : Except Fault Unit) :
    (s.takeWritten r).1.Answering (xs ++ [.written r]) (orders ++ (s.takeWritten r).2) read := by
  refine h.aside rfl rfl rfl Iff.rfl rfl ?_
  have hnone : (s.takeWritten r).2.filterMap Order.frame? = [] := by
    simp only [Server.takeWritten]
    split <;> rfl
  rw [hnone, List.append_nil]
  refine (h.owes.mono Iff.rfl (failed_concat xs _)).written fun f hf => ⟨f, ?_⟩
  rw [hf]
  exact List.mem_append_right _ List.mem_cons_self

theorem writeNext (h : s.Answering xs orders read) :
    s.writeNext.1.Answering (xs ++ [.write]) (orders ++ s.writeNext.2) read := by
  have howes := h.owes.mono Iff.rfl (failed_concat xs .write)
  unfold Server.writeNext
  split
  · exact h.aside rfl rfl rfl Iff.rfl rfl (howes.next (by assumption))
  · exact h.aside rfl rfl rfl Iff.rfl rfl (howes.next (by assumption))
  · exact h.idle rfl rfl rfl rfl rfl rfl rfl

/-- **One step.** No bytes arrive behind the end of the input. -/
theorem step (h : s.Answering xs orders read) (hx : .endInput ∈ xs → x.bytes = []) :
    ∃ new, (s.step x).1.Answering (xs ++ [x]) (orders ++ (s.step x).2) (read ++ new) := by
  have howes := h.owes.mono Iff.rfl (failed_concat xs x)
  cases x with
  | receive bytes =>
    refine reads_nothing ⟨?_, h.late, fun more hmore => ?_, fun he => ?_⟩
    · rw [Server.step, List.append_nil]
      exact howes
    · have hnone : s.inputEnded = true → bytes ++ more = [] := fun he =>
        List.append_eq_nil_iff.2 ⟨hx (h.ended he), hmore he⟩
      rw [received_concat, List.append_assoc]
      refine (h.heard (bytes ++ more) hnone).trans ?_
      simp only [unheard, Server.step, List.append_assoc]
    · exact List.mem_append_left _ (h.ended he)
  | endInput =>
    refine reads_nothing ⟨?_, h.late, fun more hmore => ?_, fun _ => ?_⟩
    · rw [Server.step, List.append_nil]
      exact howes
    · have hbytes : Step.endInput.bytes = [] := rfl
      rw [hmore rfl, received_concat, hbytes, List.append_nil (received xs)]
      exact h.heard [] fun _ => rfl
    · exact List.mem_append_right _ List.mem_cons_self
  | elapse ms => exact reads_nothing (h.idle rfl rfl rfl rfl rfl rfl rfl)
  | written r => exact reads_nothing (h.takeWritten r)
  | lookedUp found => exact reads_nothing (h.absorb rfl s.events s.answers _)
  | ended id outcome => exact reads_nothing (h.absorb rfl s.events s.answers _)
  | installed r => exact reads_nothing (h.absorb rfl s.events s.answers _)
  | advance id => exact reads_nothing (h.absorb rfl s.events s.answers _)
  | read =>
    simp only [Server.step]
    split
    · exact h.readFrame (by assumption)
    · exact reads_nothing (h.idle rfl rfl rfl rfl rfl rfl rfl)
  | handle =>
    simp only [Server.step]
    split
    · exact reads_nothing (h.absorb rfl _ s.answers _)
    · exact reads_nothing (h.idle rfl rfl rfl rfl rfl rfl rfl)
  | deliver =>
    simp only [Server.step]
    split
    · exact reads_nothing (h.absorb rfl s.events _ _)
    · exact reads_nothing (h.idle rfl rfl rfl rfl rfl rfl rfl)
  | fire =>
    simp only [Server.step]
    split
    · rename_i session e hfire
      obtain ⟨t, _, ht⟩ := Option.map_eq_some_iff.1 hfire
      cases ht
      have hlate := Session.stopTimer_shuttingDown s.session (some t.id)
      exact reads_nothing (h.idle rfl rfl rfl rfl hlate rfl rfl)
    · exact reads_nothing (h.idle rfl rfl rfl rfl rfl rfl rfl)
  | stop =>
    simp only [Server.step]
    split
    · rename_i r hover _
      refine reads_nothing (h.turn rfl (fun hr => ?_) (fun hr => by cases hr) ?_)
      · rw [hover] at hr
        cases hr
      · exact howes.stop trivial
    · exact reads_nothing (h.idle rfl rfl rfl rfl rfl rfl rfl)
  | write => exact reads_nothing h.writeNext
  | finish =>
    simp only [Server.step]
    split
    · rename_i r hstopping
      split_ifs
      · exact reads_nothing (h.idle rfl rfl rfl rfl rfl rfl rfl)
      · rw [hstopping] at howes
        refine reads_nothing (h.turn rfl (fun hr => ?_) (fun hr => by cases hr) howes)
        rw [hstopping] at hr
        cases hr
    · exact reads_nothing (h.idle rfl rfl rfl rfl rfl rfl rfl)

end Answering

end Server

end LintServer
