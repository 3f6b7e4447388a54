import LintServer.Proofs.Server.Course

/-!
# The warning through a step

Few steps concern the warning: an attempt warns the user, a response is read, an answer is taken.
All others pass it by.

* `absorb_beside`, `follow_beside`: what does not concern it;
* **`Server.Asking`**: what has been asked of the editor, with the reasons for it;
* `Asking.warns`, `Asking.helps`, `Asking.leaves`, `Asking.move`: what the linter does about it;
* `Asking.answer`, `Asking.read`: what is read of it;
* **`Asking.step`**: one step.
-/

namespace LintServer

namespace Server

open Outgoing (question page)
open Workspace (Move)

variable {s s₀ s' : Server} {xs : List Step} {orders : List Order} {x : Step}

/-! ## Parts of a step -/

theorem absorb_beside (s : Server) (r : Workspace × List Effect)
    (hes : ∀ e ∈ r.2, e.addresses = false) :
    s.connection.Passes (s.absorb r).1.connection [] ∧ (s.absorb r).1.answers = s.answers := by
  obtain ⟨w, es⟩ := r
  unfold absorb
  induction es using List.reverseRecOn with
  | nil => exact ⟨Connection.passes_refl _, rfl⟩
  | append_singleton es e ih =>
    obtain ⟨hinit, hlast⟩ := List.forall_mem_append.1 hes
    have ⟨hpasses, hanswers⟩ := ih hinit
    rw [inTurn_concat]
    cases e with
    | tell n => exact ⟨hpasses.trans (Connection.passes_tell _ n), hanswers⟩
    | notify n => cases hlast _ List.mem_cons_self
    | showConfig => cases hlast _ List.mem_cons_self
    | _ => exact ⟨hpasses, hanswers⟩

theorem follow_beside (s : Server) (r : Session × List Outcome) (hr : ∀ o ∈ r.2, o.Beside) :
    s.connection.Passes (s.follow r).1.connection [] ∧ (s.follow r).1.answers = s.answers := by
  obtain ⟨session, os⟩ := r
  unfold follow
  induction os using List.reverseRecOn with
  | nil => exact ⟨Connection.passes_refl _, rfl⟩
  | append_singleton os o ih =>
    obtain ⟨hinit, hlast⟩ := List.forall_mem_append.1 hr
    have ⟨hpasses, hanswers⟩ := ih hinit
    rw [inTurn_concat]
    cases o with
    | reply f =>
      have hf : Outgoing.isReply f = true := hlast _ List.mem_cons_self
      exact ⟨hpasses.trans (Connection.passes_send _ (Outgoing.isRequest_of_isReply hf)), hanswers⟩
    | answer id body => exact (hlast _ List.mem_cons_self).elim
    | _ => exact ⟨hpasses, hanswers⟩

/-! ## What has been asked -/

/-- **What has been asked of the editor** in some steps, with the reasons for it. -/
structure Asking (s₀ : Server) (n : Notification) (page? : Option Json) (xs : List Step)
    (s : Server) (orders : List Order) : Prop where
  notification : s.workspace.linter.settings.missingRunner = n
  help_page : (Connection.helpPage? s.connection.configPath).map (page 2) = page?
  course : ∃ wanted, Course n page? (s₀.Happened xs (Finds false)) (s₀.Posted xs (question 1 n))
    (s₀.Happened xs (Helps n)) s.connection s.workspace.linter.warning s.choices wanted ∧
      s.connection.Carries (orders.filterMap Order.frame?) wanted

namespace Asking

variable {n : Notification} {page? : Option Json} {new : List Order}

theorem aside (h : s₀.Asking n page? xs s orders)
    (hsettings : s'.workspace.linter.settings = s.workspace.linter.settings)
    (hwarning : s'.workspace.linter.warning = s.workspace.linter.warning)
    (hchoices : s'.choices = s.choices)
    (hpasses : s.connection.Passes s'.connection (new.filterMap Order.frame?)) :
    s₀.Asking n page? (xs ++ [x]) s' (orders ++ new) := by
  obtain ⟨wanted, hcourse, hcarries⟩ := h.course
  refine ⟨hsettings ▸ h.notification, hpasses.configPath ▸ h.help_page, wanted, ?_, ?_⟩
  · rw [hwarning, hchoices]
    exact hcourse.mono (Happened.concat · x) (Posted.concat · x) (Happened.concat · x)
      hpasses.requests hpasses.pending
  · rw [List.filterMap_append]
    exact hpasses.carries _ _ hcarries

theorem posted_of_carries {s₀ : Server} {wanted : List Json}
    (hrun : inTurn Server.step s₀ xs = (s, orders))
    (hcarries : s.connection.Carries (orders.filterMap Order.frame?) wanted)
    (hopen : s.connection.isOpen = true) {f : Json} (hf : f ∈ wanted) : s₀.Posted xs f := by
  refine ⟨xs, List.prefix_refl xs, ?_⟩
  rw [posted, hrun]
  rw [← hcarries.complete hopen] at hf
  exact List.mem_of_mem_filter hf

section Absorb

variable {t : Server} {w : Workspace} {es : List Effect}

theorem beside (h : s₀.Asking n page? xs s orders) (hconnection : t.connection = s.connection)
    (hchoices : s.choices = t.choices)
    (hsettings : w.linter.settings = s.workspace.linter.settings)
    (hwarning : w.linter.warning = s.workspace.linter.warning)
    (hes : ∀ e ∈ es, e.addresses = false) :
    s₀.Asking n page? (xs ++ [x]) (t.absorb (w, es)).1 (orders ++ (t.absorb (w, es)).2) := by
  obtain ⟨hpasses, hanswers⟩ := absorb_beside t (w, es) hes
  refine h.aside ?_ ?_ ?_ ?_
  · rw [absorb_workspace, hsettings]
  · rw [absorb_workspace, hwarning]
  · rw [hchoices, choices, choices, hanswers]
  · rw [frames_absorb, ← hconnection]
    exact hpasses

theorem leaves (h : s₀.Asking n page? xs s orders) (hconnection : t.connection = s.connection)
    {choice : Except HostError (Option Nat)} (hchoices : s.choices = choice :: t.choices)
    (hsettings : w.linter.settings = s.workspace.linter.settings)
    (hwarning : w.linter.warning = .answered) (hes : ∀ e ∈ es, e.addresses = false) :
    s₀.Asking n page? (xs ++ [x]) (t.absorb (w, es)).1 (orders ++ (t.absorb (w, es)).2) := by
  obtain ⟨wanted, hcourse, hcarries⟩ := h.course
  rw [hchoices] at hcourse
  obtain ⟨-, hnone, rfl, hmissing, hrequests, hpending, -⟩ := hcourse.of_choice
  obtain ⟨hpasses, hanswers⟩ := absorb_beside t (w, es) hes
  rw [hconnection] at hpasses
  refine ⟨?_, ?_, [question 1 n], ?_, ?_⟩
  · rw [absorb_workspace, hsettings]
    exact h.notification
  · rw [hpasses.configPath]
    exact h.help_page
  · rw [absorb_workspace, hwarning, choices, hanswers, ← choices, hnone]
    exact .left (hmissing.concat x) (hpasses.pending ▸ hpending)
  · rw [List.filterMap_append, frames_absorb]
    exact hpasses.carries _ _ hcarries

theorem helps (h : s₀.Asking n page? xs s orders) (hconnection : t.connection = s.connection)
    (hchoices : s.choices = .ok (some Linter.helpAction) :: t.choices)
    (hsettings : w.linter.settings = s.workspace.linter.settings)
    (hwarning : w.linter.warning = .answered) :
    s₀.Asking n page? (xs ++ [x]) (t.absorb (w, [.showConfig])).1
      (orders ++ (t.absorb (w, [.showConfig])).2) := by
  obtain ⟨wanted, hcourse, hcarries⟩ := h.course
  rw [hchoices] at hcourse
  obtain ⟨-, hnone, rfl, hmissing, hrequests, hpending, hhelp⟩ := hcourse.of_choice
  have hshow := hcarries.showConfig
  obtain ⟨hpending', hconfigPath⟩ := s.connection.showConfig_same
  rw [hrequests, h.help_page] at hshow
  have habsorb : t.absorb (w, [.showConfig]) =
      ({ t with workspace := w
                connection := s.connection.showConfig.1
                answers := t.answers ++ [.configShown s.connection.showConfig.2] }, []) := by
    rw [← hconnection]
    rfl
  rw [habsorb, List.append_nil]
  refine ⟨hsettings ▸ h.notification, ?_, _, ?_, hshow⟩
  · rw [hconfigPath]
    exact h.help_page
  · rw [choices, List.filterMap_append, ← choices, hnone]
    exact hwarning ▸ .helped (hmissing.concat x) ((hhelp rfl).concat x) (hpending' ▸ hpending)

theorem warns (h : s₀.Asking n page? xs s orders) (hconnection : t.connection = s.connection)
    (hchoices : s.choices = t.choices) (hmissing : s₀.Happened xs (Finds false))
    (hunsent : s.workspace.linter.warning = .unsent)
    (hsettings : w.linter.settings = s.workspace.linter.settings)
    (hwarning : w.linter.warning = .shown) (e : Log.Entry)
    (hrun : inTurn Server.step s₀ (xs ++ [x]) =
      ((t.absorb (w, [.log e, .notify n])).1, orders ++ (t.absorb (w, [.log e, .notify n])).2)) :
    s₀.Asking n page? (xs ++ [x]) (t.absorb (w, [.log e, .notify n])).1
      (orders ++ (t.absorb (w, [.log e, .notify n])).2) := by
  obtain ⟨wanted, hcourse, hcarries⟩ := h.course
  rw [hunsent, hchoices] at hcourse
  obtain ⟨hnone, rfl, hrequests, hpending⟩ := hcourse.of_unsent
  have hnotify := hcarries.notify n
  obtain ⟨hrequests', hconfigPath, hcases⟩ := s.connection.notify_cases n
  rw [hrequests] at hrequests' hcases hnotify
  have habsorb : t.absorb (w, [.log e, .notify n]) =
      ({ t with workspace := w
                connection := (s.connection.notify n).1
                answers := t.answers ++
                  ((s.connection.notify n).2.map fun e => Action.answered (.error e)).toList },
        [.log e]) := by
    rw [← hconnection]
    rfl
  rw [habsorb] at hrun ⊢
  have hframes : (orders ++ [Order.log e]).filterMap Order.frame? =
      orders.filterMap Order.frame? := by
    rw [List.filterMap_append]
    exact List.append_nil _
  rw [← hframes] at hnotify
  refine ⟨hsettings ▸ h.notification, ?_, _, ?_, hnotify⟩
  · rw [hconfigPath]
    exact h.help_page
  · dsimp only
    rw [choices, List.filterMap_append, ← choices, hnone, hwarning]
    have hreason := hmissing.concat x
    -- Over a closed connection the answer is there at once, and nothing waits for another one.
    rcases hcases with ⟨hopen, hanswer, hwaits⟩ | ⟨hanswer, hsame⟩
    · rw [hanswer]
      refine .waiting hreason ?_ hrequests' fun id => ?_
      · exact posted_of_carries hrun hnotify hopen (List.mem_singleton.2 rfl)
      · rw [hwaits, Table.get?_insert, hpending]
    · rw [hanswer]
      refine .chosen _ hreason hrequests' (hsame ▸ hpending) fun hc => ?_
      cases hc

/-- The workspace moves. An answer that it takes has waited for it. -/
theorem move (h : s₀.Asking n page? xs s orders) (hprobing : s₀.Probing xs s orders)
    (hrun : inTurn Server.step s₀ (xs ++ [x]) = ((s.step x).1, orders ++ (s.step x).2)) (m : Move)
    (hstep : s.step x = t.absorb (s.workspace.move m)) (hconnection : t.connection = s.connection)
    (hchoices : s.choices = ((s.workspace.action? m).bind Action.choice?).toList ++ t.choices) :
    s₀.Asking n page? (xs ++ [x]) (s.step x).1 (orders ++ (s.step x).2) := by
  rw [hstep] at hrun ⊢
  have hsettings := Workspace.settings_move s.workspace m
  have hinquiry := Workspace.inquiry_move s.workspace m
  generalize s.workspace.move m = r at hsettings hinquiry hrun ⊢
  generalize s.workspace.action? m = a at hinquiry hchoices
  obtain ⟨w, es⟩ := r
  dsimp only at hsettings hinquiry
  cases hinquiry with
  | asks id u text hget hbefore hlookup hwarning =>
    exact h.beside hconnection hchoices hsettings hwarning (by simp [Effect.addresses])
  | learns found hbefore hlookup hwarning =>
    exact h.beside hconnection hchoices hsettings hwarning (by simp)
  | warns id e hmissing hbefore hlookup hwarning =>
    rw [h.notification] at hrun ⊢
    exact h.warns hconnection hchoices (hprobing.answered false hmissing) hbefore hsettings
      hwarning e hrun
  | helps hbefore hlookup hwarning => exact h.helps hconnection hchoices hsettings hwarning
  | leaves choice es hbefore hlookup hwarning hprograms hes =>
    exact h.leaves hconnection hchoices hsettings hwarning hes
  | aside a es hlookup hwarning hanswer hprograms hes =>
    cases hchoice : a.bind Action.choice? with
    | none =>
      rw [hchoice] at hchoices
      exact h.beside hconnection hchoices hsettings hwarning hes
    | some choice =>
      -- Whatever answer has waited, it is taken while the warning is shown.
      obtain ⟨answer, rfl, hanswered⟩ := Option.bind_eq_some_iff.1 hchoice
      obtain ⟨wanted, hcourse, -⟩ := h.course
      rw [hchoices, hchoice] at hcourse
      obtain ⟨hshown, -⟩ := hcourse.of_choice
      cases answer <;> cases hanswered
      exact absurd hshown (hanswer _ rfl)

end Absorb

theorem follow_beside (h : s₀.Asking n page? xs s orders) (input : List UInt8)
    {r : Session × List Outcome} (hr : ∀ o ∈ r.2, o.Beside) :
    s₀.Asking n page? (xs ++ [x]) ({ s with input }.follow r).1
      (orders ++ ({ s with input }.follow r).2) := by
  obtain ⟨hpasses, hanswers⟩ := Server.follow_beside { s with input } r hr
  refine h.aside ?_ ?_ ?_ ?_
  · rw [follow_workspace]
  · rw [follow_workspace]
  · rw [choices, hanswers, choices]
  · rw [frames_follow]
    exact hpasses

theorem helps_of_replyTo {frame : Json} (hactions : n.actions = ["OK", "Help"])
    (h : Incoming.replyTo n frame = .ok (some Linter.helpAction)) :
    frame.get? "error" = none ∧
      (frame.get? "result").bind (Json.textAt? "title") = some "Help" := by
  unfold Incoming.replyTo at h
  cases herror : frame.get? "error" with
  | some e => rw [herror] at h; cases h
  | none =>
    rw [herror] at h
    have hchosen : Incoming.chosenAction? n frame = some 1 := Except.ok.inj h
    obtain ⟨result, hresult, hchosen⟩ := Option.bind_eq_some_iff.1 hchosen
    obtain ⟨title, htitle, hindex⟩ := Option.bind_eq_some_iff.1 hchosen
    rw [hactions] at hindex
    obtain ⟨hlt, hhelp, -⟩ := List.findIdx?_eq_some_iff_getElem.1 hindex
    refine ⟨rfl, ?_⟩
    rw [hresult, Option.bind_some, htitle]
    exact congrArg some (of_decide_eq_true hhelp).symm

theorem answer (h : s₀.Asking n page? xs s orders) (hrun : (inTurn Server.step s₀ xs).1 = s)
    (hactions : n.actions = ["OK", "Help"]) {frame : Json} (hreads : s.Reads frame x) {id : Nat}
    (hframe : Incoming.ofFrame? frame = some (.response id frame)) (input : List UInt8) :
    s₀.Asking n page? (xs ++ [x]) ({ s with input }.follow (s.session, [.answer id frame])).1
      (orders ++ ({ s with input }.follow (s.session, [.answer id frame])).2) := by
  have hfollow : { s with input }.follow (s.session, [.answer id frame]) =
      { s with input }.carryOut (.answer id frame) := rfl
  rw [hfollow, carryOut]
  cases hget : s.connection.pending.get? id with
  | none =>
    simp only [Connection.answer?, hget, Option.map_none]
    exact h.aside rfl rfl rfl (Connection.passes_refl _)
  | some n' =>
    simp only [Connection.answer?, hget, Option.map_some]
    obtain ⟨wanted, hcourse, hcarries⟩ := h.course
    obtain ⟨rfl, hn, -, hshown, hnone, rfl, hmissing, hrequests, hpending⟩ :=
      hcourse.of_pending hget
    rw [hn] at hget ⊢
    refine ⟨h.notification, h.help_page, [question 1 n], ?_, ?_⟩
    · dsimp only
      rw [choices, List.filterMap_append, ← choices, hnone, hshown]
      refine .chosen _ (hmissing.concat x) hrequests hpending fun hhelp => ?_
      obtain ⟨herror, htitle⟩ := helps_of_replyTo hactions hhelp
      exact happened_last (hrun ▸ ⟨frame, ⟨hreads, hframe, hget⟩, herror, htitle⟩)
    · rw [List.append_nil]
      exact hcarries.of_eq rfl rfl

theorem hear (h : s₀.Asking n page? xs s orders) (hrun : (inTurn Server.step s₀ xs).1 = s)
    (hactions : n.actions = ["OK", "Help"]) {body : List UInt8}
    (hx : s.deed? x = some (.frame body)) (input : List UInt8) :
    s₀.Asking n page? (xs ++ [x]) ({ s with input }.follow (s.session.hear body)).1
      (orders ++ ({ s with input }.follow (s.session.hear body)).2) := by
  unfold Session.hear
  cases hbody : Json.ofBytes? body with
  | none => exact h.follow_beside input (List.forall_mem_singleton.2 trivial)
  | some frame =>
    dsimp only
    rcases s.session.receive_cases frame with ⟨id, hframe, hreceive⟩ | hbeside
    · rw [hreceive]
      exact h.answer hrun hactions ⟨body, hx, hbody⟩ hframe input
    · exact h.follow_beside input hbeside

theorem read (h : s₀.Asking n page? xs s orders) (hrun : (inTurn Server.step s₀ xs).1 = s)
    (hactions : n.actions = ["OK", "Help"]) :
    s₀.Asking n page? (xs ++ [.read]) (s.step .read).1 (orders ++ (s.step .read).2) := by
  have hidle : s₀.Asking n page? (xs ++ [.read]) s (orders ++ []) :=
    h.aside rfl rfl rfl (Connection.passes_refl _)
  cases hphase : s.phase with
  | reading =>
    have hstep : s.step .read = s.readFrame := by simp only [Server.step, hphase]
    rw [hstep, readFrame]
    cases hread : Frame.read s.inputEnded s.input with
    | more => exact hidle
    | closed => exact h.aside rfl rfl rfl (Connection.passes_refl _)
    | failed e => exact h.aside rfl rfl rfl (Connection.passes_refl _)
    | body body rest =>
      have hdeed : s.deed? .read = some (.frame body) := by simp only [deed?, hphase, hread]
      exact h.hear hrun hactions hdeed rest
  | _ =>
    simp only [Server.step, hphase]
    exact hidle

/-- **One step.** -/
theorem step (h : s₀.Asking n page? xs s orders) (hprobing : s₀.Probing xs s orders)
    (hrun : inTurn Server.step s₀ xs = (s, orders)) (hs : s.Answerable)
    (hactions : n.actions = ["OK", "Help"]) (x : Step) :
    s₀.Asking n page? (xs ++ [x]) (s.step x).1 (orders ++ (s.step x).2) := by
  have hnext : inTurn Server.step s₀ (xs ++ [x]) = ((s.step x).1, orders ++ (s.step x).2) := by
    rw [inTurn_concat, hrun]
  have hidle : s₀.Asking n page? (xs ++ [x]) s (orders ++ []) :=
    h.aside rfl rfl rfl (Connection.passes_refl _)
  cases x with
  | receive bytes => exact h.aside rfl rfl rfl (Connection.passes_refl _)
  | endInput => exact h.aside rfl rfl rfl (Connection.passes_refl _)
  | elapse ms => exact h.aside rfl rfl rfl (Connection.passes_refl _)
  | written r =>
    have hnone : (s.takeWritten r).2.filterMap Order.frame? = [] := by
      simp only [takeWritten]
      split <;> rfl
    exact h.aside rfl rfl rfl (hnone.symm ▸ Connection.passes_written s.connection r)
  | lookedUp found => exact h.move hprobing hnext (.lookedUp found) rfl rfl rfl
  | ended id outcome => exact h.move hprobing hnext (.ended id outcome) rfl rfl rfl
  | installed r => exact h.move hprobing hnext (.installed r) rfl rfl rfl
  | advance id => exact h.move hprobing hnext (.advance id) rfl rfl rfl
  | read => exact h.read (congrArg Prod.fst hrun) hactions
  | handle =>
    cases he : s.events with
    | nil =>
      simp only [Server.step, he]
      exact hidle
    | cons e rest =>
      have hstep : s.step .handle = { s with events := rest }.absorb (s.workspace.handle e) := by
        simp only [Server.step, he]
      have hnone : (s.workspace.action? (.event e)).bind Action.choice? = none := by
        cases ha : s.workspace.action? (.event e) with
        | none => rfl
        | some a => rcases EditorEvent.action?_cases ha with ⟨_, _, rfl⟩ | ⟨_, _, _, _, rfl⟩ <;> rfl
      exact h.move hprobing hnext (.event e) hstep rfl (by rw [hnone]; rfl)
  | deliver =>
    cases ha : s.answers with
    | nil =>
      simp only [Server.step, ha]
      exact hidle
    | cons a rest =>
      have hstep : s.step .deliver = { s with answers := rest }.act a := by
        simp only [Server.step, ha]
      have hanswer := hs a (ha ▸ List.mem_cons_self)
      cases a with
      | answered choice =>
        exact h.move hprobing hnext (.answered choice) hstep rfl (by rw [choices, ha]; rfl)
      | configShown r =>
        exact h.move hprobing hnext (.configShown r) hstep rfl (by rw [choices, ha]; rfl)
      | _ => cases hanswer
  | fire =>
    simp only [Server.step]
    split
    · exact h.aside rfl rfl rfl (Connection.passes_refl _)
    · exact hidle
  | stop =>
    simp only [Server.step]
    split
    · exact h.aside rfl rfl rfl (Connection.passes_put _ rfl)
    · exact hidle
  | write =>
    simp only [Server.step, writeNext]
    split
    · exact h.aside rfl rfl rfl (Connection.passes_next (by assumption))
    · exact h.aside rfl rfl rfl (Connection.passes_next (by assumption))
    · exact hidle
  | finish =>
    simp only [Server.step]
    split
    · split_ifs
      · exact hidle
      · exact h.aside rfl rfl rfl (Connection.passes_refl _)
    · exact hidle

end Asking

end Server

end LintServer
