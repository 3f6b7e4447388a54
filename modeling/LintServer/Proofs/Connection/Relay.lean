import LintServer.Connection
import LintServer.Proofs.Json.Fields
import LintServer.Proofs.Publisher.Mirror

/-!
# Notices on their way

The notices of a publisher go over the connection as frames, between replies, requests of the server
and whatever else happens to the connection. As long as it is open no notice gets lost, so the last
frame about a document shows the issues that it has.

* `Outgoing.publishedUri?`: the document whose issues a frame shows;
* `Relay`, `Relay.step`, `Relay.run`: a publisher and a connection;
* `queued_operate`, `queued_other`: what one move puts in line;
* `Shows`, `shows_run`: the last frame about every document;
* **`mirrored_and_shown`**: the editor mirrors the publisher.
-/

namespace LintServer

namespace Outgoing

/-- The document whose issues a frame shows. -/
def publishedUri? (f : Json) : Option Uri :=
  if (f.get? "method").bind Json.string? = some "textDocument/publishDiagnostics" then
    (((f.get? "params").bind (Json.get? "uri")).bind Json.string?).map Uri.mk
  else none

@[simp] theorem publishedUri?_publish (u : Uri) (issues : List Issue) :
    publishedUri? (publish u issues) = some u := by
  simp [publishedUri?, publish, notification, publishParams, Json.get?_ofFields, List.lookup_cons,
    Json.string?]

@[simp] theorem publishedUri?_response (id result : Json) :
    publishedUri? (response id result) = none := by
  simp [publishedUri?, response, version, Json.get?_ofFields, List.lookup_cons, List.lookup_nil]

@[simp] theorem publishedUri?_errorResponse (id : Json) (code : Int) (message : String) :
    publishedUri? (errorResponse id code message) = none := by
  simp [publishedUri?, errorResponse, version, Json.get?_ofFields, List.lookup_cons, List.lookup_nil]

theorem publishedUri?_request (id : Nat) {method : String} (params : Json)
    (h : method ≠ "textDocument/publishDiagnostics") :
    publishedUri? (request id method params) = none := by
  simp [publishedUri?, request, Json.get?_ofFields, List.lookup_cons, Json.string?, h]

end Outgoing

/-- The frame of a notice. -/
def Notice.frame (n : Notice) : Json := Outgoing.publish n.uri (n.issues?.getD [])

namespace Connection

/-- The frame that waits, if it is one. -/
def Item.frame? : Item → Option Json
  | frame f => some f
  | stop => none

/-- The frames that wait in line. -/
def frames (c : Connection) : List Json := c.line.filterMap Item.frame?

theorem tell_eq (c : Connection) (n : Notice) : c.tell n = c.send n.frame := by
  cases n <;> rfl

theorem isOpen_put (c : Connection) (i : Item) : (c.put i).isOpen = c.isOpen := by
  unfold put
  split <;> rfl

theorem frames_put {c : Connection} (h : c.isOpen = true) (i : Item) :
    (c.put i).frames = c.frames ++ i.frame?.toList := by
  rw [put, if_pos h, frames, List.filterMap_append]
  cases i <;> rfl

theorem frames_tell {c : Connection} (h : c.isOpen = true) (ns : List Notice) :
    (ns.foldl tell c).isOpen = true ∧
      (ns.foldl tell c).frames = c.frames ++ ns.map Notice.frame := by
  induction ns generalizing c with
  | nil => exact ⟨h, (List.append_nil _).symm⟩
  | cons n ns ih =>
    have hopen : (c.tell n).isOpen = true := by rw [tell_eq, send, isOpen_put, h]
    obtain ⟨ho, hf⟩ := ih hopen
    refine ⟨ho, ?_⟩
    rw [List.foldl_cons, hf, tell_eq, send, frames_put h, List.map_cons, List.append_assoc]
    rfl

theorem isOpen_of_tell {c : Connection} {ns : List Notice}
    (h : (ns.foldl tell c).isOpen = true) : c.isOpen = true := by
  induction ns generalizing c with
  | nil => exact h
  | cons n ns ih => rw [← isOpen_put, ← send, ← tell_eq]; exact ih h

/-! ## What has nothing to do with issues -/

/-- Nothing is lost as long as the connection stays open, and what comes in line shows no issues. -/
def Quiet (c c' : Connection) : Prop :=
  c'.isOpen = true → c.isOpen = true ∧
    ∃ fs, c'.frames = c.frames ++ fs ∧ ∀ f ∈ fs, Outgoing.publishedUri? f = none

variable {c : Connection}

theorem Quiet.of_eq {c' : Connection} (ho : c'.isOpen = c.isOpen) (hf : c'.frames = c.frames) :
    c.Quiet c' := fun h => ⟨ho ▸ h, [], by rw [hf, List.append_nil], by simp⟩

theorem quiet_put (c : Connection) {i : Item}
    (hi : ∀ f, i = .frame f → Outgoing.publishedUri? f = none) : c.Quiet (c.put i) := by
  intro h
  rw [isOpen_put] at h
  refine ⟨h, i.frame?.toList, frames_put h i, fun f hf => ?_⟩
  cases i with
  | frame g => exact hi f (congrArg Item.frame (List.mem_singleton.1 hf).symm)
  | stop => exact absurd hf List.not_mem_nil

theorem quiet_send (c : Connection) {f : Json} (hf : Outgoing.publishedUri? f = none) :
    c.Quiet (c.send f) :=
  quiet_put c fun g hg => by rw [← Item.frame.inj hg, hf]

theorem quiet_notify (c : Connection) (n : Notification) : c.Quiet (c.notify n).1 := by
  simp only [notify]
  split_ifs
  · exact quiet_send { c with requests := c.requests + 1,
                              pending := c.pending.insert (c.requests + 1) n }
      (Outgoing.publishedUri?_request _ _ (by decide))
  · exact .of_eq rfl rfl

theorem quiet_showConfig (c : Connection) : c.Quiet c.showConfig.1 := by
  unfold showConfig
  split
  · exact .of_eq rfl rfl
  · split
    · exact .of_eq rfl rfl
    · simp only []
      split_ifs
      · exact quiet_send { c with requests := c.requests + 1 }
          (Outgoing.publishedUri?_request _ _ (by decide))
      · exact .of_eq rfl rfl

theorem quiet_answer {id : Nat} {body : Json} {r : Connection × Except HostError (Option Nat)}
    (h : c.answer? id body = some r) : c.Quiet r.1 := by
  obtain ⟨n, _, rfl⟩ := Option.map_eq_some_iff.1 h
  exact .of_eq rfl rfl

theorem quiet_written (c : Connection) (r : Except Fault Unit) : c.Quiet (c.written r) := by
  unfold written
  split_ifs with hw
  · cases r with
    | ok _ => exact .of_eq (by simp [isOpen, hw]) rfl
    | error e => exact fun h => absurd h (by simp [isOpen])
  · exact .of_eq rfl rfl

theorem frames_next {r : Connection × Option Json} (h : c.next? = some r)
    (ho : r.1.isOpen = true) : c.isOpen = true ∧ c.frames = r.2.toList ++ r.1.frames := by
  obtain ⟨line, writer, requests, pending, configPath⟩ := c
  cases writer with
  | idle =>
    rcases line with _ | ⟨f | _, rest⟩
    · cases h
    · cases h
      exact ⟨rfl, rfl⟩
    · cases h
      cases ho
  | writing => cases h
  | stopped => cases h

end Connection

/-- A publisher whose notices go over a connection. -/
structure Relay where
  publisher : Publisher
  connection : Connection
  /-- The frames that the writer has taken. -/
  taken : List Json

namespace Relay

/-- What may happen to a publisher and its connection. -/
inductive Move where
  | operate (o : Publisher.Operation)
  /-- A request of the editor is answered. -/
  | reply (id result : Json)
  /-- A request of the editor is refused. -/
  | refuse (id : Json) (code : Int) (message : String)
  | notify (n : Notification)
  | showConfig
  /-- The editor answers a request of the server. -/
  | answer (id : Nat) (body : Json)
  /-- The writer is told to stop. -/
  | stop
  /-- The writer takes the next frame. -/
  | take
  /-- A frame has been written, or could not be. -/
  | written (r : Except Fault Unit)

/-- Nothing has happened. -/
def start (configPath : Option Path) : Relay := ⟨.empty, .start configPath, []⟩

/-- One move. -/
def step (r : Relay) : Move → Relay
  | .operate o =>
    let s := r.publisher.step o
    { r with publisher := s.1, connection := s.2.2.foldl Connection.tell r.connection }
  | .reply id result => { r with connection := r.connection.send (Outgoing.response id result) }
  | .refuse id code message =>
    { r with connection := r.connection.send (Outgoing.errorResponse id code message) }
  | .notify n => { r with connection := (r.connection.notify n).1 }
  | .showConfig => { r with connection := r.connection.showConfig.1 }
  | .answer id body =>
    match r.connection.answer? id body with
    | some (c, _) => { r with connection := c }
    | none => r
  | .stop => { r with connection := r.connection.put .stop }
  | .take =>
    match r.connection.next? with
    | some (c, f) => { r with connection := c, taken := r.taken ++ f.toList }
    | none => r
  | .written w => { r with connection := r.connection.written w }

/-- One move after the other. -/
def run (r : Relay) (ms : List Move) : Relay := ms.foldl step r

/-- The frames that have been sent, the first one first. -/
def queued (r : Relay) : List Json := r.taken ++ r.connection.frames

/-- The last frame that has been sent about a document. -/
def lastFrame? (r : Relay) (u : Uri) : Option Json :=
  (r.queued.filter fun f => Outgoing.publishedUri? f = some u).getLast?

/-! ## One move -/

variable {r : Relay} {m : Move} {u : Uri}

/-- The operation of the publisher, if a move is one. -/
def Move.operation? : Move → Option Publisher.Operation
  | operate o => some o
  | _ => none

theorem queued_operate {o : Publisher.Operation}
    (h : (r.step (.operate o)).connection.isOpen = true) :
    r.connection.isOpen = true ∧
      (r.step (.operate o)).queued = r.queued ++ (r.publisher.step o).2.2.map Notice.frame := by
  have ho := Connection.isOpen_of_tell h
  refine ⟨ho, ?_⟩
  rw [queued, queued, List.append_assoc, ← (Connection.frames_tell ho _).2]
  rfl

theorem queued_quiet {c : Connection} (hq : r.connection.Quiet c) (h : c.isOpen = true) :
    r.connection.isOpen = true ∧ ∃ fs, queued { r with connection := c } = r.queued ++ fs ∧
      ∀ f ∈ fs, Outgoing.publishedUri? f = none := by
  obtain ⟨ho, fs, hf, hnone⟩ := hq h
  exact ⟨ho, fs, by rw [queued, queued, hf, List.append_assoc], hnone⟩

theorem queued_other (hm : m.operation? = none) (h : (r.step m).connection.isOpen = true) :
    r.connection.isOpen = true ∧ (r.step m).publisher = r.publisher ∧
      ∃ fs, (r.step m).queued = r.queued ++ fs ∧ ∀ f ∈ fs, Outgoing.publishedUri? f = none := by
  have hsame : (r.step m).publisher = r.publisher := by
    cases m with
    | operate o => cases hm
    | answer id body => simp only [step]; split <;> rfl
    | take => simp only [step]; split <;> rfl
    | _ => rfl
  suffices hq : r.connection.isOpen = true ∧
      ∃ fs, (r.step m).queued = r.queued ++ fs ∧ ∀ f ∈ fs, Outgoing.publishedUri? f = none from
    ⟨hq.1, hsame, hq.2⟩
  cases m with
  | operate o => cases hm
  | reply id result =>
    exact queued_quiet (Connection.quiet_send _ (Outgoing.publishedUri?_response _ _)) h
  | refuse id code message =>
    exact queued_quiet (Connection.quiet_send _ (Outgoing.publishedUri?_errorResponse _ _ _)) h
  | notify n => exact queued_quiet (Connection.quiet_notify _ n) h
  | showConfig => exact queued_quiet (Connection.quiet_showConfig _) h
  | answer id body =>
    simp only [step] at h ⊢
    cases ha : r.connection.answer? id body with
    | none =>
      rw [ha] at h
      exact queued_quiet (.of_eq rfl rfl) h
    | some a =>
      rw [ha] at h
      exact queued_quiet (Connection.quiet_answer ha) h
  | stop => exact queued_quiet (Connection.quiet_put _ fun f hf => by cases hf) h
  | take =>
    simp only [step] at h ⊢
    cases hn : r.connection.next? with
    | none =>
      rw [hn] at h
      exact queued_quiet (.of_eq rfl rfl) h
    | some n =>
      rw [hn] at h
      obtain ⟨ho, hf⟩ := Connection.frames_next hn h
      refine ⟨ho, [], ?_, by simp⟩
      simp only [queued, hf, List.append_nil, List.append_assoc]
  | written w => exact queued_quiet (Connection.quiet_written _ w) h

/-! ## Runs -/

theorem run_concat (r : Relay) (ms : List Move) (m : Move) : r.run (ms ++ [m]) = (r.run ms).step m :=
  List.foldl_append

/-- The last frame about a document shows the issues that it has; without a frame about it, it is
not tracked. -/
def Shows (frames : List Json) (u : Uri) (shown : Option (List Issue)) : Prop :=
  match (frames.filter fun f => Outgoing.publishedUri? f = some u).getLast? with
  | some f => f = Outgoing.publish u (shown.getD [])
  | none => shown = none

theorem Shows.append {frames fs : List Json} {shown : Option (List Issue)}
    (h : Shows frames u shown) (hfs : ∀ f ∈ fs, Outgoing.publishedUri? f ≠ some u) :
    Shows (frames ++ fs) u shown := by
  have hnil : fs.filter (fun f => Outgoing.publishedUri? f = some u) = [] :=
    List.filter_eq_nil_iff.2 fun f hf => by simpa using hfs f hf
  rwa [Shows, List.filter_append, hnil, List.append_nil]

theorem Shows.notice {frames : List Json} {s : Screen} (h : Shows frames u (s u)) (n : Notice) :
    Shows (frames ++ [n.frame]) u (n.onto s u) := by
  by_cases hu : u = n.uri
  · rw [Shows, List.filter_append, List.filter_cons_of_pos (by simp [Notice.frame, hu]),
      List.filter_nil, List.getLast?_concat, Notice.onto, if_pos hu, hu]
    rfl
  · rw [Notice.onto, if_neg hu]
    refine h.append fun f hf => ?_
    rw [List.mem_singleton.1 hf, Notice.frame, Outgoing.publishedUri?_publish]
    exact fun e => hu (Option.some.inj e).symm

/-- As long as the connection is open, the last frame about a document shows its issues. -/
theorem shows_run (configPath : Option Path) (ms : List Move)
    (h : ((start configPath).run ms).connection.isOpen = true) (u : Uri) :
    Shows ((start configPath).run ms).queued u (((start configPath).run ms).publisher.issues? u) := by
  induction ms using List.reverseRecOn with
  | nil => rfl
  | append_singleton ms m ih =>
    rw [run_concat] at h ⊢
    cases hm : m.operation? with
    | none =>
      obtain ⟨ho, hsame, fs, hq, hnone⟩ := queued_other hm h
      rw [hsame, hq]
      exact (ih ho).append fun f hf => by rw [hnone f hf]; simp
    | some o =>
      obtain rfl : m = .operate o := by
        cases m <;> cases hm
        rfl
      obtain ⟨ho, hq⟩ := queued_operate h
      rw [hq, show (((start configPath).run ms).step (.operate o)).publisher =
        (((start configPath).run ms).publisher.step o).1 from rfl]
      rcases Publisher.step_notices ((start configPath).run ms).publisher o with
        ⟨hns, hsame⟩ | ⟨n, hns, honto, _⟩
      · rw [hns, hsame, List.map_nil, List.append_nil]
        exact ih ho
      · rw [hns, honto]
        exact (ih ho).notice n

end Relay

end LintServer
