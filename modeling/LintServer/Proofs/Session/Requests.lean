import LintServer.Proofs.Frame.Stream
import LintServer.Proofs.Json.Fields
import LintServer.Session

/-!
# Requests of the editor

A frame that has an id and names a method is a request, and what it gets depends on whether the
shutdown has been asked for before. No other frame gets a reply.

* `Request`, `Request.ofFrame?`: the request that a frame is;
* `Request.reply`, `Request.replies`: the reply to a request, and those to requests in a row;
* `Request.among`, `Request.due`: the requests among frames, and the replies that they get;
* **`Request.answeredBy_reply`**: what a reply says;
* `Session.heard`: the frames that a session gets out of a stream;
* **`Session.replies_receive`**: what comes of a frame, as far as requests are concerned;
* `Outcome.Beside`, `Session.receive_cases`: what answers a request of the server.
-/

namespace LintServer

/-- The reply that an outcome is. -/
def Outcome.reply? : Outcome → Option Json
  | reply frame => some frame
  | _ => none

/-- Whether an outcome is the end of the session. -/
def Outcome.exits : Outcome → Bool
  | exit => true
  | _ => false

namespace Outgoing

/-- Whether a frame to the editor is a reply: it names no method. -/
def isReply (f : Json) : Bool := (f.get? "method").isNone

/-- The code of the error that a frame carries. -/
def errorCode? (f : Json) : Option Json := (f.get? "error").bind (Json.get? "code")

theorem fields_response (id result : Json) :
    (response id result).get? "id" = some id ∧ (response id result).get? "method" = none ∧
      (response id result).get? "result" = some result ∧
      (response id result).get? "error" = none := by
  simp [response, version, Json.get?_ofFields, List.lookup_cons]

theorem fields_errorResponse (id : Json) (code : Int) (message : String) :
    (errorResponse id code message).get? "id" = some id ∧
      (errorResponse id code message).get? "method" = none ∧
      (errorResponse id code message).get? "result" = none ∧
      errorCode? (errorResponse id code message) = some (number code) := by
  simp [errorCode?, errorResponse, version, Json.get?_ofFields, List.lookup_cons]

end Outgoing

/-- Whether an outcome has nothing to do with the requests of the server. -/
def Outcome.Beside : Outcome → Prop
  | reply f => Outgoing.isReply f = true
  | answer _ _ => False
  | _ => True

theorem Incoming.body_of_response {frame reply : Json} {id : Nat}
    (h : Incoming.ofFrame? frame = some (.response id reply)) : reply = frame := by
  unfold ofFrame? at h
  split at h
  · cases h
  · cases h
  · split_ifs at h
    obtain ⟨n, _, hn⟩ := Option.map_eq_some_iff.1 h
    cases hn
    rfl
  · cases h

/-- A request of the editor. -/
structure Request where
  id : Json
  method : String

namespace Request

/-- The request that a frame is. -/
def ofFrame? (frame : Json) : Option Request :=
  match Incoming.ofFrame? frame with
  | some (.request id method) => some ⟨id, method⟩
  | _ => none

/-- Whether a request asks for the shutdown. -/
def isShutdown (r : Request) : Bool := r.method = "shutdown"

/-! ## Replies -/

/-- The reply to a request; `late` says that the shutdown has been asked for before. -/
def reply (late : Bool) (r : Request) : Json :=
  if late then Outgoing.errorResponse r.id Outgoing.invalidRequest "server is shutting down"
  else if r.method = "initialize" then Outgoing.response r.id Outgoing.initializeResult
  else if r.method = "shutdown" then Outgoing.response r.id .null
  else Outgoing.errorResponse r.id Outgoing.methodNotFound s!"Method not found: {r.method}"

/-- The replies to requests in a row. -/
def replies : Bool → List Request → List Json
  | _, [] => []
  | late, r :: rs => r.reply late :: replies (late || r.isShutdown) rs

theorem replies_append (late : Bool) (rs rs' : List Request) :
    replies late (rs ++ rs') = replies late rs ++ replies (late || rs.any isShutdown) rs' := by
  induction rs generalizing late with
  | nil => rw [List.nil_append, List.any_nil, Bool.or_false, replies, List.nil_append]
  | cons r rs ih =>
    rw [List.cons_append, replies, ih, replies, List.cons_append, List.any_cons, Bool.or_assoc]

/-- The requests among frames. -/
def among (frames : List Json) : List Request := frames.filterMap ofFrame?

/-- The replies that the requests among the frames of a session get. -/
def due (frames : List Json) : List Json := replies false (among frames)

theorem among_append (frames new : List Json) :
    among (frames ++ new) = among frames ++ among new :=
  List.filterMap_append

theorem among_singleton (frame : Json) : among [frame] = (ofFrame? frame).toList := by
  rw [among, List.filterMap_cons]
  cases ofFrame? frame <;> rfl

theorem due_append (frames new : List Json) : due (frames ++ new) =
    due frames ++ replies ((among frames).any isShutdown) (among new) := by
  rw [due, among_append, replies_append, Bool.false_or, due]

/-- What a frame says that answers a request. -/
structure AnsweredBy (r : Request) (late : Bool) (f : Json) : Prop where
  id_eq : f.get? "id" = some r.id
  no_method : f.get? "method" = none
  of_first : late = false → r.method = "initialize" →
    f.get? "result" = some Outgoing.initializeResult ∧ f.get? "error" = none
  of_shutdown : late = false → r.method = "shutdown" →
    f.get? "result" = some .null ∧ f.get? "error" = none
  of_other : late = false → r.method ≠ "initialize" → r.method ≠ "shutdown" →
    f.get? "result" = none ∧ Outgoing.errorCode? f = some (Outgoing.number (-32601))
  of_late : late = true →
    f.get? "result" = none ∧ Outgoing.errorCode? f = some (Outgoing.number (-32600))

/-- **Every reply answers its request.** -/
theorem answeredBy_reply (late : Bool) (r : Request) : r.AnsweredBy late (r.reply late) := by
  cases late with
  | true =>
    obtain ⟨hid, hmethod, herror⟩ := Outgoing.fields_errorResponse r.id (-32600)
      "server is shutting down"
    exact ⟨hid, hmethod, nofun, nofun, nofun, fun _ => herror⟩
  | false =>
    by_cases hfirst : r.method = "initialize"
    · obtain ⟨hid, hmethod, hresult⟩ := Outgoing.fields_response r.id Outgoing.initializeResult
      have hreply : r.reply false = Outgoing.response r.id Outgoing.initializeResult := by
        simp [reply, hfirst]
      rw [hreply]
      refine ⟨hid, hmethod, fun _ _ => hresult, fun _ h => ?_, fun _ h => absurd hfirst h, nofun⟩
      exact absurd (hfirst.symm.trans h) (by decide)
    · by_cases hshutdown : r.method = "shutdown"
      · obtain ⟨hid, hmethod, hresult⟩ := Outgoing.fields_response r.id .null
        have hreply : r.reply false = Outgoing.response r.id .null := by
          simp [reply, hshutdown]
        rw [hreply]
        exact ⟨hid, hmethod, fun _ h => absurd h hfirst, fun _ _ => hresult,
          fun _ _ h => absurd hshutdown h, nofun⟩
      · obtain ⟨hid, hmethod, herror⟩ := Outgoing.fields_errorResponse r.id (-32601)
          s!"Method not found: {r.method}"
        have hreply : r.reply false = Outgoing.errorResponse r.id (-32601)
            s!"Method not found: {r.method}" := by
          simp [reply, hfirst, hshutdown, Outgoing.methodNotFound]
        rw [hreply]
        exact ⟨hid, hmethod, fun _ h => absurd h hfirst, fun _ h => absurd h hshutdown,
          fun _ _ _ => herror, nofun⟩

theorem isReply_reply (late : Bool) (r : Request) : Outgoing.isReply (r.reply late) = true :=
  Option.isNone_iff_eq_none.2 (answeredBy_reply late r).no_method

end Request

namespace Session

/-- Whether a frame ends the session. -/
def isExit (frame : Json) : Bool :=
  match Incoming.ofFrame? frame with
  | some (.notification method _) => method = "exit"
  | _ => false

/-- The frames that a session gets out of a stream: up to the exit, or to the end of the stream.
Bodies that are no JSON texts are passed over. -/
def heard : List Frame.Item → List Json
  | .value frame :: items => frame :: if isExit frame then [] else heard items
  | .malformed :: items => heard items
  | _ => []

theorem heard_readAll {ended : Bool} {s more : List UInt8} (h : Frame.read ended s ≠ .more)
    (hmore : ended = true → more = []) : heard (Frame.readAll (s ++ more)) =
      match Frame.read ended s with
      | .body body rest =>
        match Json.ofBytes? body with
        | some frame =>
          frame :: if isExit frame then [] else heard (Frame.readAll (rest ++ more))
        | none => heard (Frame.readAll (rest ++ more))
      | _ => [] := by
  rw [Frame.readAll_eq, Frame.read_append h hmore]
  cases hr : Frame.read ended s with
  | more => exact absurd hr h
  | body body rest =>
    simp only [Frame.Reading.append, Frame.Item.ofBody]
    cases Json.ofBytes? body <;> rfl
  | _ => rfl

/-! ## What comes of a frame -/

/-- What comes of a frame as far as requests are concerned. -/
structure Replies (s : Session) (request? : Option Request) (exits : Bool)
    (r : Session × List Outcome) : Prop where
  replies : r.2.filterMap Outcome.reply? = (request?.map (Request.reply s.shuttingDown)).toList
  exits : r.2.any Outcome.exits = exits
  shuttingDown : r.1.shuttingDown = (s.shuttingDown || request?.any Request.isShutdown)

variable (s : Session)

@[simp] theorem stopTimer_shuttingDown (o : Option Nat) :
    (s.stopTimer o).shuttingDown = s.shuttingDown := by
  cases o <;> rfl

theorem replies_openDocument (d : Document) : s.Replies none false (s.openDocument d) := by
  unfold openDocument
  split
  · exact ⟨rfl, rfl, by simp⟩
  · exact ⟨rfl, rfl, by simp⟩

theorem replies_changeDocument (u : Uri) (texts : List String) :
    s.Replies none false (s.changeDocument u texts) := by
  unfold changeDocument
  split
  · exact ⟨rfl, rfl, by simp [setTimer]⟩
  · exact ⟨rfl, rfl, by simp⟩

theorem replies_closeDocument (u : Uri) : s.Replies none false (s.closeDocument u) := by
  unfold closeDocument
  split
  · exact ⟨rfl, rfl, by simp⟩
  · exact ⟨rfl, rfl, by simp⟩

theorem replies_withParams {α : Type} (method : String) (params : Option α)
    {act : α → Session × List Outcome} (hact : ∀ p, s.Replies none false (act p)) :
    s.Replies none false (s.withParams method params act) := by
  cases params with
  | none => exact ⟨rfl, rfl, by simp [withParams]⟩
  | some p => exact hact p

theorem replies_note (method : String) (params : Json) :
    s.Replies none (method = "exit") (s.note method params) := by
  unfold note
  split_ifs with hexit
  · exact ⟨rfl, (decide_eq_true hexit).symm, by simp⟩
  · exact ⟨rfl, (decide_eq_true hexit).symm, by simp⟩
  all_goals rw [decide_eq_false hexit]
  · exact s.replies_withParams method _ s.replies_openDocument
  · exact s.replies_withParams method _ fun p => s.replies_changeDocument p.1 p.2
  · exact s.replies_withParams method _ s.replies_closeDocument
  · exact ⟨rfl, rfl, by simp⟩

theorem replies_replyTo (r : Request) : s.Replies (some r) false (s.replyTo r.id r.method) := by
  unfold replyTo
  split_ifs with hlate hfirst hshutdown
  · exact ⟨by simp [Outcome.reply?, Request.reply, hlate], rfl, by simp [hlate]⟩
  · exact ⟨by simp [Outcome.reply?, Request.reply, hlate, hfirst], rfl,
      by simp [Request.isShutdown, hfirst]⟩
  · exact ⟨by simp [Outcome.reply?, Request.reply, hlate, hshutdown], rfl,
      by simp [Request.isShutdown, hshutdown]⟩
  · exact ⟨by simp [Outcome.reply?, Request.reply, hlate, hfirst, hshutdown], rfl,
      by simp [Request.isShutdown, hshutdown]⟩

/-- **A request gets its reply**, and no other frame gets one. -/
theorem replies_receive (frame : Json) :
    s.Replies (Request.ofFrame? frame) (isExit frame) (s.receive frame) := by
  unfold Request.ofFrame? isExit receive
  cases Incoming.ofFrame? frame with
  | none => exact ⟨rfl, rfl, by simp⟩
  | some incoming =>
    cases incoming with
    | request id method => exact s.replies_replyTo ⟨id, method⟩
    | notification method params => exact s.replies_note method params
    | response id body => exact ⟨rfl, rfl, by simp⟩

theorem replies_malformed : s.Replies none false s.malformed := ⟨rfl, rfl, by simp [malformed]⟩

/-! ## What answers a request of the server -/

theorem beside_withParams {α : Type} (method : String) (params : Option α)
    {act : α → Session × List Outcome} (hact : ∀ p, ∀ o ∈ (act p).2, o.Beside) :
    ∀ o ∈ (s.withParams method params act).2, o.Beside := by
  cases params with
  | none => exact List.forall_mem_singleton.2 trivial
  | some p => exact hact p

theorem beside_openDocument (d : Document) : ∀ o ∈ (s.openDocument d).2, o.Beside := by
  unfold openDocument
  split <;> exact List.forall_mem_singleton.2 trivial

theorem beside_changeDocument (u : Uri) (texts : List String) :
    ∀ o ∈ (s.changeDocument u texts).2, o.Beside := by
  unfold changeDocument
  split <;> exact List.forall_mem_nil _

theorem beside_closeDocument (u : Uri) : ∀ o ∈ (s.closeDocument u).2, o.Beside := by
  unfold closeDocument
  split
  · exact List.forall_mem_singleton.2 trivial
  · exact List.forall_mem_nil _

theorem beside_note (method : String) (params : Json) :
    ∀ o ∈ (s.note method params).2, o.Beside := by
  unfold note
  split_ifs
  · exact List.forall_mem_singleton.2 trivial
  · exact List.forall_mem_cons.2 ⟨trivial, List.forall_mem_singleton.2 trivial⟩
  · exact s.beside_withParams method _ s.beside_openDocument
  · exact s.beside_withParams method _ fun p => s.beside_changeDocument p.1 p.2
  · exact s.beside_withParams method _ s.beside_closeDocument
  · exact List.forall_mem_nil _

theorem beside_replyTo (id : Json) (method : String) :
    ∀ o ∈ (s.replyTo id method).2, o.Beside := by
  have hresponse (result : Json) : (Outcome.reply (Outgoing.response id result)).Beside :=
    Option.isNone_iff_eq_none.2 (Outgoing.fields_response id result).2.1
  have herror (code : Int) (message : String) :
      (Outcome.reply (Outgoing.errorResponse id code message)).Beside :=
    Option.isNone_iff_eq_none.2 (Outgoing.fields_errorResponse id code message).2.1
  unfold replyTo
  split_ifs
  · exact List.forall_mem_singleton.2 (herror _ _)
  · exact List.forall_mem_singleton.2 (hresponse _)
  · exact List.forall_mem_singleton.2 (hresponse _)
  · exact List.forall_mem_singleton.2 (herror _ _)

/-- **A response is an answer**, and what comes of any other frame has nothing to do with the
requests of the server. -/
theorem receive_cases (frame : Json) :
    (∃ id, Incoming.ofFrame? frame = some (.response id frame) ∧
      s.receive frame = (s, [.answer id frame])) ∨ ∀ o ∈ (s.receive frame).2, o.Beside := by
  unfold receive
  cases hframe : Incoming.ofFrame? frame with
  | none => exact .inr (List.forall_mem_nil _)
  | some incoming =>
    cases incoming with
    | request id method => exact .inr (s.beside_replyTo id method)
    | notification method params => exact .inr (s.beside_note method params)
    | response id reply =>
      obtain rfl := Incoming.body_of_response hframe
      exact .inl ⟨id, rfl, rfl⟩

end Session

end LintServer
