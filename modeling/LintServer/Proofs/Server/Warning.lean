import LintServer.Proofs.Server.Asking

/-!
# One search, one warning, one help page

Whatever the attempts, the user and the editor do, and in whatever order, the runner is looked up
once at most, the user is warned once at most, and the help page is shown once at most. No attempt
waits for any of this but for the search.

* `step_of_frame`, `step_of_response`, `connection_of_answers`: a response that is read;
* `settled_step`: a request that has been answered stays answered;
* `asking_start`, `asking_inTurn`: what has been asked of the editor in any steps;
* **`sought_warned_and_helped_once`**: all together.
-/

namespace LintServer

namespace Server

open Outgoing (question page)

variable {s s₀ : Server} {xs : List Step} {x : Step} {id : Nat} {frame : Json}

/-! ## Responses -/

theorem step_of_frame {body : List UInt8} (h : s.deed? x = some (.frame body)) :
    ∃ rest, s.step x = { s with input := rest }.follow (s.session.hear body) := by
  have hread {rest : List UInt8} (hr : Frame.read s.inputEnded s.input = .body body rest) :
      s.readFrame = { s with input := rest }.follow (s.session.hear body) := by
    unfold readFrame
    rw [hr]
    rfl
  cases x with
  | read =>
    simp only [deed?] at h
    split at h
    · rename_i hphase
      split at h
      · cases h
      · cases h
      · cases h
      · rename_i rest hbody
        cases h
        exact ⟨rest, by rw [← hread hbody, step, hphase]⟩
    · cases h
  | _ => cases h

theorem step_of_response (h : s.Reads frame x)
    (hframe : Incoming.ofFrame? frame = some (.response id frame)) :
    ∃ rest, s.step x = { s with input := rest }.carryOut (.answer id frame) := by
  obtain ⟨body, hdeed, hbody⟩ := h
  obtain ⟨rest, hstep⟩ := step_of_frame hdeed
  refine ⟨rest, hstep.trans ?_⟩
  have hhear : s.session.hear body = (s.session, [.answer id frame]) := by
    simp only [Session.hear, hbody, Session.receive, hframe]
  rw [hhear]
  rfl

/-- A response that nothing waits for does nothing. -/
theorem step_of_unanswered (h : s.Reads frame x)
    (hframe : Incoming.ofFrame? frame = some (.response id frame))
    (hnone : s.connection.pending.get? id = none) :
    ∃ rest, s.step x = ({ s with input := rest }, []) := by
  obtain ⟨rest, hstep⟩ := step_of_response h hframe
  refine ⟨rest, hstep.trans ?_⟩
  simp only [carryOut, Connection.answer?, hnone, Option.map_none]

theorem connection_of_answers {n : Notification} (h : s.Answers id n frame x) :
    (s.step x).1.connection =
      { s.connection with pending := s.connection.pending.erase id } := by
  obtain ⟨hreads, hframe, hget⟩ := h
  obtain ⟨rest, hstep⟩ := step_of_response hreads hframe
  rw [hstep]
  simp only [carryOut, Connection.answer?, hget, Option.map_some]

/-! ## Answered requests -/

theorem settled_step (h : s.connection.Settled id) (x : Step) :
    (s.step x).1.connection.Settled id := by
  have habsorb (t : Server) (r : Workspace × List Effect) (ht : t.connection.Settled id) :
      (t.absorb r).1.connection.Settled id := by
    refine inTurn_keeps (s := { t with workspace := r.1 })
      (P := fun t => t.connection.Settled id) (fun t e ht => ?_) ht _
    cases e with
    | tell n => exact (Connection.passes_tell _ n).settled ht
    | notify n => exact ht.notify n
    | showConfig => exact ht.showConfig
    | _ => exact ht
  have hfollow (t : Server) (r : Session × List Outcome) (ht : t.connection.Settled id) :
      (t.follow r).1.connection.Settled id := by
    refine inTurn_keeps (s := { t with session := r.1 })
      (P := fun t => t.connection.Settled id) (fun t o ht => ?_) ht _
    cases o with
    | reply f => exact ht.put _
    | answer id body =>
      simp only [carryOut]
      split
      · exact ht.answer (by assumption)
      · exact ht
    | _ => exact ht
  cases x with
  | written r => exact (Connection.passes_written _ r).settled h
  | lookedUp found => exact habsorb s _ h
  | ended id outcome => exact habsorb s _ h
  | installed r => exact habsorb s _ h
  | advance id => exact habsorb s _ h
  | read =>
    simp only [step, readFrame]
    split
    · split
      · exact h
      · exact h
      · exact h
      · exact hfollow _ _ h
    · exact h
  | handle =>
    simp only [step]
    split
    · exact habsorb _ _ h
    · exact h
  | deliver =>
    simp only [step]
    split
    · exact habsorb _ _ h
    · exact h
  | fire => simp only [step]; split <;> exact h
  | stop =>
    simp only [step]
    split
    · exact h.put .stop
    · exact h
  | write =>
    simp only [step, writeNext]
    split
    · exact (Connection.passes_next (by assumption)).settled h
    · exact (Connection.passes_next (by assumption)).settled h
    · exact h
  | finish =>
    simp only [step]
    split
    · split_ifs <;> exact h
    · exact h
  | _ => exact h

theorem settled_inTurn (h : s.connection.Settled id) (xs : List Step) :
    (inTurn step s xs).1.connection.Settled id :=
  inTurn_keeps (P := fun s => s.connection.Settled id) (fun _ x hs => settled_step hs x) h xs

/-! ## Runs -/

section Runs

variable (settings : Settings) (configPath : Option Path) (installed : Bool)

theorem asking_start : (start settings configPath installed).1.Asking
    settings.validator.missingRunner ((Connection.helpPage? configPath).map (page 2)) []
    (start settings configPath installed).1 [] := by
  have hstart := workspace_start settings configPath installed
  have hconnection : (start settings configPath installed).1.connection = .start configPath := by
    cases installed <;> rfl
  have hanswers : (start settings configPath installed).1.answers = [] := by
    cases installed <;> rfl
  refine ⟨by rw [hstart]; rfl, by rw [hconnection]; rfl, [], ?_, ?_⟩
  · rw [hstart, hconnection, choices, hanswers]
    exact .unsent rfl fun id => rfl
  · rw [hconnection]
    exact ⟨List.nil_prefix, fun _ => rfl⟩

theorem asking_inTurn (xs : List Step) : (start settings configPath installed).1.Asking
    settings.validator.missingRunner ((Connection.helpPage? configPath).map (page 2)) xs
    (inTurn step (start settings configPath installed).1 xs).1
    (inTurn step (start settings configPath installed).1 xs).2 := by
  have hs := answerable_start settings configPath installed
  have hprobing := probing_inTurn hs (probing_start settings configPath installed)
  induction xs using List.reverseRecOn with
  | nil => exact asking_start settings configPath installed
  | append_singleton xs x ih =>
    rw [inTurn_concat]
    exact ih.step (hprobing xs) rfl (answerable_inTurn hs xs) rfl x

end Runs

theorem page_ne_question (uri : String) (n : Notification) : page 2 uri ≠ question 1 n := by
  intro h
  have hmethod := congrArg (Json.get? "method") h
  simp [question, page, Outgoing.fields_request] at hmethod

theorem nodup_requests {n : Notification} {uri? : Option String} {requests : List Json}
    (h : requests <+: question 1 n :: (uri?.map (page 2)).toList) :
    (requests.map (Json.get? "id")).Nodup ∧ (requests.map (Json.get? "method")).Nodup := by
  obtain ⟨hid, hmethod⟩ :=
    Outgoing.fields_request 1 "window/showMessageRequest" (Outgoing.messageParams n)
  have hall : ((question 1 n :: (uri?.map (page 2)).toList).map (Json.get? "id")).Nodup ∧
      ((question 1 n :: (uri?.map (page 2)).toList).map (Json.get? "method")).Nodup := by
    cases uri? with
    | none => exact ⟨List.nodup_singleton _, List.nodup_singleton _⟩
    | some uri =>
      obtain ⟨hid', hmethod'⟩ :=
        Outgoing.fields_request 2 "window/showDocument" (Outgoing.documentParams uri)
      simp [question, page, hid, hmethod, hid', hmethod', Json.ofNat]
  exact ⟨hall.1.sublist (h.sublist.map _), hall.2.sublist (h.sublist.map _)⟩

theorem pending_of_happened (settings : Settings) (configPath : Option Path) (installed : Bool)
    (h : (start settings configPath installed).1.Happened xs fun t x =>
      ∃ n frame, t.Answers id n frame x) :
    (inTurn step (start settings configPath installed).1 xs).1.connection.pending.get? id =
      none := by
  obtain ⟨before, x, after, rfl, n, frame, hanswers⟩ := h
  obtain ⟨wanted, hcourse, -⟩ := (asking_inTurn settings configPath installed before).course
  obtain ⟨hid, -, -, -, -, -, -, hrequests, hnone⟩ := hcourse.of_pending hanswers.2.2
  rw [inTurn_append, inTurn_cons]
  refine (settled_inTurn ?_ after).2
  rw [connection_of_answers hanswers]
  exact ⟨by rw [hid, hrequests], hnone id⟩

/-- **One search, one warning, one help page**, in any steps: each of them comes about once at most,
for its own reason only, and no attempt waits for more than the search. -/
theorem sought_warned_and_helped_once (settings : Settings) (configPath : Option Path)
    (installed : Bool) (xs : List Step) :
    let s₀ := (start settings configPath installed).1
    let n := settings.validator.missingRunner
    let s := (inTurn step s₀ xs).1
    let programs := (inTurn step s₀ xs).2.filterMap Order.program?
    let requests := (s₀.posted xs).filter Outgoing.isRequest
    (programs = [] ∨ programs = [settings.validator.runner] ∧
        s₀.Happened xs (Lints settings.validator.tag)) ∧
      (requests <+: question 1 n :: ((Connection.helpPage? configPath).map (page 2)).toList ∧
        (requests.map (Json.get? "id")).Nodup ∧ (requests.map (Json.get? "method")).Nodup) ∧
      (question 1 n ∈ requests → s₀.Happened xs (Finds false)) ∧
      (∀ uri, page 2 uri ∈ requests → s₀.Happened xs (Helps n)) ∧
      (∀ id n', s.connection.pending.get? id = some n' →
        id = 1 ∧ n' = n ∧ s₀.Posted xs (question 1 n)) ∧
      (∀ id, s₀.Happened xs (fun t x => ∃ n' frame, t.Answers id n' frame x) →
        s.connection.pending.get? id = none) ∧
      (∀ x id frame, s.Reads frame x → Incoming.ofFrame? frame = some (.response id frame) →
        s.connection.pending.get? id = none → ∃ rest, s.step x = ({ s with input := rest }, [])) ∧
      ∀ id a xs₁ xs₂ xs₃ xs₄, s.workspace.linter.attempts.get? id = some a →
        a.MayStart settings.validator.tag →
        ((∃ found, s.workspace.linter.lookup = .answered found) ∨
          ∃ found, .lookedUp found ∈ xs₂) →
        .validate id settings.validator.command a.text ∈
          (inTurn step s (xs₁ ++ [.advance id] ++ xs₂ ++ [.advance id] ++ xs₃ ++ [.advance id] ++
            xs₄)).2 := by
  intro s₀ n s programs requests
  have hs₀ := answerable_start settings configPath installed
  have hstart := workspace_start settings configPath installed
  have hworkspace := workspace_inTurn hs₀ xs
  have hsettings : s.workspace.linter.settings = settings.validator := by
    rw [hworkspace, Workspace.settings_run, hstart]
    rfl
  have hprobing := probing_inTurn hs₀ (probing_start settings configPath installed) xs
  obtain ⟨wanted, hcourse, hcarries⟩ := (asking_inTurn settings configPath installed xs).course
  have hwanted : requests <+: wanted := hcarries.part
  have hall := hwanted.trans hcourse.part
  refine ⟨?_, ⟨hall, nodup_requests hall⟩, fun hf => ?_, fun uri hf => ?_, fun id n' hget => ?_,
    fun id h => pending_of_happened settings configPath installed h,
    fun x id frame hreads hframe hnone => step_of_unanswered hreads hframe hnone, ?_⟩
  · have hprograms := hprobing.programs
    by_cases hlookup : s.workspace.linter.lookup = .unasked
    · exact .inl (hprograms.trans (if_pos hlookup))
    · have hasked := hprobing.asked hlookup
      rw [hsettings] at hasked
      refine .inr ⟨hprograms.trans ((if_neg hlookup).trans ?_), hasked⟩
      rw [hsettings]
  · exact hcourse.missing_of_ne_nil (List.ne_nil_of_mem (hwanted.subset hf))
  · exact hcourse.help_of_mem (hwanted.subset hf) (page_ne_question uri n)
  · obtain ⟨hid, hn, hposted, -⟩ := hcourse.of_pending hget
    exact ⟨hid, hn, hposted⟩
  · intro id a xs₁ xs₂ xs₃ xs₄ hget hmay hsearch
    have hl : s.workspace.linter.Orderly := by
      rw [hworkspace, hstart]
      exact Workspace.orderly_run (Linter.orderly_start _ _) _
    have hasked : s.workspace.linter.Asked := by
      rw [hworkspace, hstart]
      refine Workspace.asked_run (fun id u text hwaits => ?_) _
      cases hwaits
    rw [← hsettings] at hmay ⊢
    exact validate_of_turns (answerable_inTurn hs₀ xs) hl hasked hget hmay xs₁ xs₂ xs₃ xs₄ hsearch

set_option maxRecDepth 4000 in
/-- Two documents are opened, and both attempts come to the search before it is over. The user asks
for help and, in a second response, for nothing. -/
theorem help_page_shown :
    let settings : Settings :=
      ⟨⟨"jsonlint", "npx", "npm", [], ⟨"/tmp"⟩, "json", by decide, by decide, by decide, by decide⟩,
        300⟩
    let input := "Content-Length:61\n\n\x7b\"method\":\"textDocument/didOpen\"," ++
      "\"params\":[[\"a\",\"json\",\"x\"]]\x7d" ++
      "Content-Length:61\n\n\x7b\"method\":\"textDocument/didOpen\"," ++
      "\"params\":[[\"b\",\"json\",\"y\"]]\x7d"
    let replies := "Content-Length:34\n\n\x7b\"id\":1,\"result\":" ++
      "\x7b\"title\":\"Help\"\x7d\x7d" ++ "Content-Length:22\n\n\x7b\"id\":1,\"result\":null\x7d"
    let xs : List Step := [.receive (Text.Utf8.encode input.toList), .read, .handle, .read, .handle,
      .advance 0, .advance 1, .lookedUp false, .advance 1, .advance 0, .write,
      .receive (Text.Utf8.encode replies.toList), .read, .read, .deliver, .deliver]
    let s₀ := (start settings (some ⟨"/c"⟩) true).1
    let n := settings.validator.missingRunner
    (inTurn step s₀ xs).2.filterMap Order.program? = ["npx"] ∧
      (s₀.posted xs).filter Outgoing.isRequest = [question 1 n, page 2 "file:///c"] ∧
      s₀.Happened xs (Helps n) := by
  intro settings input replies xs s₀ n
  obtain ⟨hsome, hlength⟩ : (inTurn step s₀ xs).2.filterMap Order.program? ≠ [] ∧
      ((s₀.posted xs).filter Outgoing.isRequest).length = 2 := by
    decide +kernel
  have huri : Connection.helpPage? (some ⟨"/c"⟩) = some "file:///c" := by decide +kernel
  obtain ⟨hprograms, ⟨hpart, -⟩, -, hhelp, -⟩ :=
    sought_warned_and_helped_once settings (some ⟨"/c"⟩) true xs
  rw [huri] at hpart
  have hrequests := hpart.eq_of_length hlength
  refine ⟨(hprograms.resolve_left hsome).1, hrequests, hhelp "file:///c" ?_⟩
  rw [hrequests]
  exact List.mem_cons_of_mem _ List.mem_cons_self

end Server

end LintServer
