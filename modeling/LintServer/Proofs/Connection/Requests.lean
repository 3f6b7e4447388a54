import LintServer.Proofs.Connection.Replies

/-!
# Requests of the server on their way

The server asks the editor to show a warning and to show a document. These requests stand in line
with notices and replies. As long as the connection is open each of them has been taken or waits in
line; what is lost when the writer stops is lost from the end.

* `Outgoing.isRequest`, `question`, `page`: the requests;
* `Connection.helpPage?`: the document that shows the configuration;
* **`Connection.Carries`**: the requests on their way against those that have been wanted;
* `Carries.notify`, `Carries.showConfig`: the two that are wanted;
* `Connection.Passes`: moves that make no request and answer none;
* `Connection.Settled`: a number under which nothing will wait any more.
-/

namespace LintServer

namespace Outgoing

/-- Whether a frame to the editor is a request: it has an id and names a method. -/
def isRequest (f : Json) : Bool := (f.get? "id").isSome && (f.get? "method").isSome

theorem fields_request (id : Nat) (method : String) (params : Json) :
    (request id method params).get? "id" = some (.ofNat id) ∧
      (request id method params).get? "method" = some (.string method) := by
  simp [request, Json.get?_ofFields, List.lookup_cons]

theorem isRequest_request (id : Nat) (method : String) (params : Json) :
    isRequest (request id method params) = true := by
  obtain ⟨hid, hmethod⟩ := fields_request id method params
  rw [isRequest, hid, hmethod]
  rfl

theorem isRequest_notification (method : String) (params : Json) :
    isRequest (notification method params) = false := by
  simp [isRequest, notification, version, Json.get?_ofFields, List.lookup_cons]

theorem isRequest_of_isReply {f : Json} (h : isReply f = true) : isRequest f = false := by
  rw [isRequest, Option.isNone_iff_eq_none.1 h]
  exact Bool.and_false _

/-- The request to show a notification and to send the choice of the user. -/
def question (id : Nat) (n : Notification) : Json :=
  request id "window/showMessageRequest" (messageParams n)

/-- The request to show a document. -/
def page (id : Nat) (uri : String) : Json := request id "window/showDocument" (documentParams uri)

end Outgoing

open Outgoing (isRequest question page)

namespace Connection

/-- The document that shows the configuration, if there is one. -/
def helpPage? (configPath : Option Path) : Option String := configPath.bind Path.fileUri?

variable {c c' : Connection} {taken wanted : List Json}

/-- The requests among the frames that have been taken and those that wait in line are the first
ones of those that have been wanted. As long as the connection is open they are all of them. -/
structure Carries (c : Connection) (taken wanted : List Json) : Prop where
  part : (taken ++ c.frames).filter isRequest <+: wanted
  complete : c.isOpen = true → (taken ++ c.frames).filter isRequest = wanted

namespace Carries

theorem of_eq (h : c.Carries taken wanted) (hline : c'.line = c.line)
    (hwriter : c'.writer = c.writer) : c'.Carries taken wanted := by
  have hopen : c'.isOpen = c.isOpen := by rw [isOpen, isOpen, hwriter]
  have hframes : c'.frames = c.frames := by rw [frames, frames, hline]
  refine ⟨?_, fun ho => ?_⟩
  · rw [hframes]
    exact h.part
  · rw [hframes]
    exact h.complete (hopen ▸ ho)

theorem of_closed (h : c.Carries taken wanted) (hclosed : c.isOpen = false) (more : List Json) :
    c.Carries taken (wanted ++ more) :=
  ⟨h.part.trans (List.prefix_append _ _),
    fun ho => absurd ho (ne_true_of_eq_false hclosed)⟩

theorem put (h : c.Carries taken wanted) (i : Item) :
    (c.put i).Carries taken (wanted ++ i.frame?.toList.filter isRequest) := by
  cases hopen : c.isOpen with
  | false =>
    have hsame : c.put i = c := by
      rw [Connection.put, hopen]
      rfl
    rw [hsame]
    exact h.of_closed hopen _
  | true =>
    have hall : (taken ++ (c.put i).frames).filter isRequest =
        wanted ++ i.frame?.toList.filter isRequest := by
      rw [frames_put hopen, ← List.append_assoc, List.filter_append, h.complete hopen]
    exact ⟨hall ▸ List.prefix_refl _, fun _ => hall⟩

theorem send (h : c.Carries taken wanted) {f : Json} (hf : isRequest f = true) :
    (c.send f).Carries taken (wanted ++ [f]) := by
  have hput := h.put (.frame f)
  rwa [show (Item.frame f).frame?.toList = [f] from rfl, List.filter_cons_of_pos hf,
    List.filter_nil] at hput

theorem notify (h : c.Carries taken wanted) (n : Notification) :
    (c.notify n).1.Carries taken (wanted ++ [question (c.requests + 1) n]) := by
  simp only [Connection.notify]
  split_ifs with hopen
  · have hwaits : Carries { c with requests := c.requests + 1
                                   pending := c.pending.insert (c.requests + 1) n }
        taken wanted :=
      h.of_eq rfl rfl
    exact hwaits.send (Outgoing.isRequest_request _ _ _)
  · have hcounts : Carries { c with requests := c.requests + 1 } taken wanted := h.of_eq rfl rfl
    exact hcounts.of_closed (Bool.eq_false_iff.2 hopen) _

theorem showConfig (h : c.Carries taken wanted) : c.showConfig.1.Carries taken
    (wanted ++ ((helpPage? c.configPath).map (page (c.requests + 1))).toList) := by
  obtain ⟨line, writer, requests, pending, configPath⟩ := c
  unfold Connection.showConfig helpPage?
  cases configPath with
  | none =>
    rw [Option.bind_none, Option.map_none, Option.toList_none, List.append_nil]
    exact h
  | some path =>
    cases huri : path.fileUri? with
    | none =>
      simp only [huri, Option.bind_some, Option.map_none, Option.toList_none, List.append_nil]
      exact h
    | some uri =>
      have hcounts : Carries ⟨line, writer, requests + 1, pending, some path⟩ taken wanted :=
        h.of_eq rfl rfl
      simp only [huri, Option.bind_some, Option.map_some, Option.toList_some]
      split_ifs with hopen
      · exact hcounts.send (Outgoing.isRequest_request _ _ _)
      · exact hcounts.of_closed (Bool.eq_false_iff.2 hopen) _

/-! ## The writer -/

theorem lose (h : c.Carries taken wanted) (hline : c'.line = []) (hclosed : c'.isOpen = false) :
    c'.Carries taken wanted := by
  refine ⟨?_, fun ho => absurd ho (ne_true_of_eq_false hclosed)⟩
  rw [frames, hline, List.filterMap_nil, List.append_nil]
  exact ((List.prefix_append taken c.frames).filter isRequest).trans h.part

theorem next (h : c.Carries taken wanted) {f : Option Json} (hn : c.next? = some (c', f)) :
    c'.Carries (taken ++ f.toList) wanted := by
  obtain ⟨line, writer, requests, pending, configPath⟩ := c
  cases writer with
  | idle =>
    rcases line with _ | ⟨g | _, rest⟩
    · cases hn
    · cases hn
      -- The frame moves from the line to those that have been taken.
      have hmoved : taken ++ [g] ++ rest.filterMap Item.frame? =
          taken ++ (Item.frame g :: rest).filterMap Item.frame? :=
        List.append_assoc _ _ _
      have hall := (congrArg (List.filter isRequest) hmoved).trans (h.complete rfl)
      exact ⟨hall ▸ List.prefix_refl _, fun _ => hall⟩
    · cases hn
      rw [Option.toList_none, List.append_nil]
      exact h.lose rfl rfl
  | writing => cases hn
  | stopped => cases hn

theorem written (h : c.Carries taken wanted) (r : Except Fault Unit) :
    (c.written r).Carries taken wanted := by
  unfold Connection.written
  split_ifs with hw
  · have hopen : c.isOpen = true := by simp [isOpen, hw]
    cases r with
    | ok _ => exact ⟨h.part, fun _ => h.complete hopen⟩
    | error e => exact h.lose rfl rfl
  · exact h

end Carries

/-! ## What waits for an answer -/

@[simp] theorem put_requests (c : Connection) (i : Item) : (c.put i).requests = c.requests := by
  unfold put
  split <;> rfl

@[simp] theorem put_pending (c : Connection) (i : Item) : (c.put i).pending = c.pending := by
  unfold put
  split <;> rfl

@[simp] theorem put_configPath (c : Connection) (i : Item) :
    (c.put i).configPath = c.configPath := by
  unfold put
  split <;> rfl

theorem notify_cases (c : Connection) (n : Notification) :
    (c.notify n).1.requests = c.requests + 1 ∧ (c.notify n).1.configPath = c.configPath ∧
      (((c.notify n).1.isOpen = true ∧ (c.notify n).2 = none ∧
          (c.notify n).1.pending = c.pending.insert (c.requests + 1) n) ∨
        ((c.notify n).2 = some .disconnected ∧ (c.notify n).1.pending = c.pending)) := by
  simp only [Connection.notify]
  split_ifs with hopen
  · exact ⟨put_requests _ _, put_configPath _ _,
      .inl ⟨(isOpen_put _ _).trans hopen, rfl, put_pending _ _⟩⟩
  · exact ⟨rfl, rfl, .inr ⟨rfl, rfl⟩⟩

theorem showConfig_same (c : Connection) :
    c.showConfig.1.pending = c.pending ∧ c.showConfig.1.configPath = c.configPath := by
  unfold Connection.showConfig
  split
  · exact ⟨rfl, rfl⟩
  · split
    · exact ⟨rfl, rfl⟩
    · simp only []
      split_ifs
      · exact ⟨put_pending _ _, put_configPath _ _⟩
      · exact ⟨rfl, rfl⟩

/-! ## Moves beside the requests -/

/-- A move that makes no request and answers none; the writer may take frames. -/
structure Passes (c c' : Connection) (fs : List Json) : Prop where
  requests : c'.requests = c.requests
  pending : c'.pending = c.pending
  configPath : c'.configPath = c.configPath
  carries : ∀ taken wanted, c.Carries taken wanted → c'.Carries (taken ++ fs) wanted

theorem passes_refl (c : Connection) : c.Passes c [] :=
  ⟨rfl, rfl, rfl, fun taken _ h => (List.append_nil taken).symm ▸ h⟩

theorem Passes.trans {c'' : Connection} {fs fs' : List Json} (h : c.Passes c' fs)
    (h' : c'.Passes c'' fs') : c.Passes c'' (fs ++ fs') where
  requests := h'.requests.trans h.requests
  pending := h'.pending.trans h.pending
  configPath := h'.configPath.trans h.configPath
  carries taken wanted hc := by
    rw [← List.append_assoc]
    exact h'.carries _ _ (h.carries _ _ hc)

theorem passes_put (c : Connection) {i : Item} (hi : i.frame?.toList.filter isRequest = []) :
    c.Passes (c.put i) [] := by
  refine ⟨put_requests c i, put_pending c i, put_configPath c i, fun taken wanted h => ?_⟩
  have hcarries := h.put i
  rw [hi, List.append_nil] at hcarries
  rwa [List.append_nil]

theorem passes_send (c : Connection) {f : Json} (hf : isRequest f = false) :
    c.Passes (c.send f) [] :=
  c.passes_put (List.filter_cons_of_neg (ne_true_of_eq_false hf))

theorem passes_tell (c : Connection) (n : Notice) : c.Passes (c.tell n) [] := by
  rw [tell_eq]
  exact c.passes_send (Outgoing.isRequest_notification _ _)

theorem passes_next {f : Option Json} (hn : c.next? = some (c', f)) : c.Passes c' f.toList := by
  refine ⟨?_, ?_, ?_, fun taken wanted h => h.next hn⟩
  all_goals
    unfold next? at hn
    split at hn <;> cases hn <;> rfl

theorem passes_written (c : Connection) (r : Except Fault Unit) : c.Passes (c.written r) [] := by
  refine ⟨?_, ?_, ?_, fun taken _ h => (List.append_nil taken).symm ▸ h.written r⟩
  all_goals
    unfold Connection.written
    split_ifs
    · cases r <;> rfl
    · rfl

/-! ## Numbers that have been used -/

/-- Nothing waits under a number that has been used, nor will it. -/
def Settled (c : Connection) (id : Nat) : Prop := id ≤ c.requests ∧ c.pending.get? id = none

variable {id : Nat}

theorem Passes.settled {fs : List Json} (hp : c.Passes c' fs) (h : c.Settled id) :
    c'.Settled id := by
  rw [Settled, hp.requests, hp.pending]
  exact h

theorem Settled.put (h : c.Settled id) (i : Item) : (c.put i).Settled id := by
  rw [Settled, put_requests, put_pending]
  exact h

theorem Settled.notify (h : c.Settled id) (n : Notification) : (c.notify n).1.Settled id := by
  have hle : id ≤ c.requests + 1 := Nat.le_succ_of_le h.1
  simp only [Connection.notify]
  split_ifs
  · refine Settled.put ⟨hle, ?_⟩ _
    rw [Table.get?_insert, if_neg (Nat.ne_of_lt (Nat.lt_succ_of_le h.1))]
    exact h.2
  · exact ⟨hle, h.2⟩

theorem Settled.showConfig (h : c.Settled id) : c.showConfig.1.Settled id := by
  have hle : id ≤ c.requests + 1 := Nat.le_succ_of_le h.1
  unfold Connection.showConfig
  split
  · exact h
  · split
    · exact h
    · simp only []
      split_ifs
      · have hcounts : Settled { c with requests := c.requests + 1 } id := ⟨hle, h.2⟩
        exact hcounts.put _
      · exact ⟨hle, h.2⟩

theorem Settled.answer (h : c.Settled id) {id' : Nat} {body : Json}
    {r : Connection × Except HostError (Option Nat)} (hr : c.answer? id' body = some r) :
    r.1.Settled id := by
  obtain ⟨n, _, rfl⟩ := Option.map_eq_some_iff.1 hr
  refine ⟨h.1, ?_⟩
  rw [Table.get?_erase, h.2, ite_self]

end Connection

end LintServer
