import LintServer.Proofs.Frame.RoundTrip
import LintServer.Proofs.Server.Deeds

/-!
# Frames that come to nothing

A frame may be no JSON text, or no message at all, or a response that nobody waits for, or a
notification that makes no sense just then. The server passes it over: apart from a log entry, a run
with such frames is the run without them.

* `Session.Ignores`, **`Server.Garbage`**: notifications and frames that come to nothing;
* `does_garbage`: they do;
* `Server.purged`: the deeds of some steps, less such frames;
* `inTurn_purged`: what a server does is up to these deeds;
* **`garbage_leaves_no_trace`**: runs that differ in such frames only.
-/

namespace LintServer

namespace Session

variable {s : Session} {method : String} {params : Json}

/-- A notification that comes to nothing. -/
inductive Ignores (s : Session) : String → Json → Prop
  /-- There is no such notification. -/
  | unknown {method : String} {params : Json} (hexit : method ≠ "exit")
      (hopen : method ≠ "textDocument/didOpen") (hchange : method ≠ "textDocument/didChange")
      (hclose : method ≠ "textDocument/didClose") : Ignores s method params
  | openParams {params : Json} (h : Incoming.openParams? params = none) :
      Ignores s "textDocument/didOpen" params
  | changeParams {params : Json} (h : Incoming.changeParams? params = none) :
      Ignores s "textDocument/didChange" params
  | closeParams {params : Json} (h : Incoming.closeParams? params = none) :
      Ignores s "textDocument/didClose" params
  /-- A document changes that is not open. -/
  | changeNotOpen {params : Json} {u : Uri} {texts : List String}
      (h : Incoming.changeParams? params = some (u, texts)) (hu : s.documents.get? u = none) :
      Ignores s "textDocument/didChange" params
  /-- A document is closed that is not open. -/
  | closeNotOpen {params : Json} {u : Uri} (h : Incoming.closeParams? params = some u)
      (hu : s.documents.get? u = none) : Ignores s "textDocument/didClose" params
  /-- A document changes, but there are no changes. -/
  | noChange {params : Json} {u : Uri} (h : Incoming.changeParams? params = some (u, [])) :
      Ignores s "textDocument/didChange" params

/-- Whether a notification comes to nothing. -/
def ignores (s : Session) (method : String) (params : Json) : Bool :=
  if method = "exit" then false
  else if method = "textDocument/didOpen" then (Incoming.openParams? params).isNone
  else if method = "textDocument/didChange" then
    match Incoming.changeParams? params with
    | some (u, texts) => !s.documents.contains u || texts.isEmpty
    | none => true
  else if method = "textDocument/didClose" then
    match Incoming.closeParams? params with
    | some u => !s.documents.contains u
    | none => true
  else true

theorem ignores_iff : s.ignores method params = true ↔ s.Ignores method params := by
  constructor
  · intro h
    unfold ignores at h
    split_ifs at h with hexit hopen hchange hclose
    · subst hopen
      exact .openParams (by simpa using h)
    · subst hchange
      split at h
      · rename_i u texts hparams
        cases texts with
        | nil => exact .noChange hparams
        | cons text texts => exact .changeNotOpen hparams (by simpa [Table.contains] using h)
      · exact .changeParams (by assumption)
    · subst hclose
      split at h
      · exact .closeNotOpen (by assumption) (by simpa [Table.contains] using h)
      · exact .closeParams (by assumption)
    · exact .unknown hexit hopen hchange hclose
  · intro h
    cases h with
    | unknown hexit hopen hchange hclose => simp [ignores, hexit, hopen, hchange, hclose]
    | openParams h => simp [ignores, h]
    | changeParams h => simp [ignores, h]
    | closeParams h => simp [ignores, h]
    | changeNotOpen h hu => simp [ignores, h, hu, Table.contains]
    | closeNotOpen h hu => simp [ignores, h, hu, Table.contains]
    | noChange h => simp [ignores, h]

theorem withParams_none {α : Type} (s : Session) (method : String)
    (act : α → Session × List Outcome) :
    ∃ logs : List Log.Entry, s.withParams method none act = (s, logs.map .log) :=
  ⟨[Log.warning .session s!"Invalid {method} params"], rfl⟩

theorem note_ignored (h : s.Ignores method params) :
    ∃ logs : List Log.Entry, s.note method params = (s, logs.map .log) := by
  cases h with
  | unknown hexit hopen hchange hclose => exact ⟨[], by simp [note, hexit, hopen, hchange, hclose]⟩
  | openParams h => simpa [note, h] using withParams_none s "textDocument/didOpen" s.openDocument
  | changeParams h =>
    simpa [note, h] using
      withParams_none s "textDocument/didChange" fun p : Uri × List String =>
        s.changeDocument p.1 p.2
  | closeParams h => simpa [note, h] using withParams_none s "textDocument/didClose" s.closeDocument
  | changeNotOpen h hu => exact ⟨[], by simp [note, withParams, h, changeDocument, hu]⟩
  | closeNotOpen h hu => exact ⟨[], by simp [note, withParams, h, closeDocument, hu]⟩
  | noChange h => exact ⟨[], by simp [note, withParams, h, changeDocument]⟩

end Session

namespace Server

variable {s : Server}

/-- **A frame that comes to nothing.** -/
inductive Garbage (s : Server) (body : List UInt8) : Prop
  /-- It is no JSON text. -/
  | noJson (h : Json.ofBytes? body = none)
  /-- It is neither a request nor a notification nor a response. -/
  | noMessage {frame : Json} (hbody : Json.ofBytes? body = some frame)
      (h : Incoming.ofFrame? frame = none)
  /-- It is a response that nobody waits for. -/
  | noQuestion {frame reply : Json} {id : Nat} (hbody : Json.ofBytes? body = some frame)
      (h : Incoming.ofFrame? frame = some (.response id reply))
      (hid : s.connection.pending.get? id = none)
  | ignored {frame params : Json} {method : String} (hbody : Json.ofBytes? body = some frame)
      (h : Incoming.ofFrame? frame = some (.notification method params))
      (hignored : s.session.Ignores method params)

/-- Whether a deed comes to nothing. -/
def isGarbage (s : Server) : Deed → Bool
  | .frame body =>
    match (Json.ofBytes? body).bind Incoming.ofFrame? with
    | none => true
    | some (.request _ _) => false
    | some (.response id _) => !s.connection.pending.contains id
    | some (.notification method params) => s.session.ignores method params
  | _ => false

theorem isGarbage_frame_iff {body : List UInt8} :
    s.isGarbage (.frame body) = true ↔ s.Garbage body := by
  constructor
  · intro h
    simp only [isGarbage] at h
    cases hbody : Json.ofBytes? body with
    | none => exact .noJson hbody
    | some frame =>
      rw [hbody, Option.bind_some] at h
      cases hframe : Incoming.ofFrame? frame with
      | none => exact .noMessage hbody hframe
      | some incoming =>
        rw [hframe] at h
        cases incoming with
        | request id method => cases h
        | response id reply => exact .noQuestion hbody hframe (by simpa [Table.contains] using h)
        | notification method params =>
          exact .ignored hbody hframe (Session.ignores_iff.1 h)
  · intro h
    cases h with
    | noJson h => simp [isGarbage, h]
    | noMessage hbody h => simp [isGarbage, hbody, h]
    | noQuestion hbody h hid => simp [isGarbage, hbody, h, Table.contains, hid]
    | ignored hbody h hignored => simpa [isGarbage, hbody, h] using Session.ignores_iff.2 hignored

theorem follow_logs (s : Server) (logs : List Log.Entry) :
    s.follow (s.session, logs.map .log) = (s, logs.map .log) := by
  unfold follow
  induction logs using List.reverseRecOn with
  | nil => rfl
  | append_singleton logs e ih =>
    rw [List.map_append, List.map_append, List.map_singleton, inTurn_concat, ih]
    rfl

/-- A frame that comes to nothing changes nothing. -/
theorem does_garbage {body : List UInt8} (h : s.Garbage body) :
    ∃ logs : List Log.Entry, s.does (.frame body) = (s, logs.map .log) := by
  simp only [does, Session.hear]
  cases h with
  | noJson h =>
    rw [h]
    exact ⟨_, follow_logs s [_]⟩
  | noMessage hbody h =>
    rw [hbody]
    simp only [Session.receive, h]
    exact ⟨[], rfl⟩
  | noQuestion hbody h hid =>
    rw [hbody]
    simp only [Session.receive, h]
    exact ⟨[], by simp [follow, inTurn, carryOut, Connection.answer?, hid]⟩
  | ignored hbody h hignored =>
    rw [hbody]
    simp only [Session.receive, h]
    obtain ⟨logs, hnote⟩ := Session.note_ignored hignored
    rw [hnote]
    exact ⟨logs, follow_logs s logs⟩

theorem does_of_isGarbage {d : Deed} (h : s.isGarbage d = true) :
    ∃ logs : List Log.Entry, s.does d = (s, logs.map .log) := by
  cases d with
  | frame body => exact does_garbage (isGarbage_frame_iff.1 h)
  | _ => cases h

/-! ## Runs -/

/-- The deeds of some steps, less the frames that come to nothing. -/
def purged (s : Server) : List Step → List Deed
  | [] => []
  | x :: xs =>
    match s.deed? x with
    | some d => if s.isGarbage d then purged (s.step x).1 xs else d :: purged (s.step x).1 xs
    | none => purged (s.step x).1 xs

/-- Whether an order is to write a log entry. -/
def Order.isLog : Order → Bool
  | log _ => true
  | _ => false

/-- The orders that are not about the log. -/
def withoutLog (orders : List Order) : List Order := orders.filter fun o => !o.isLog

theorem withoutLog_append (orders orders' : List Order) :
    withoutLog (orders ++ orders') = withoutLog orders ++ withoutLog orders' :=
  List.filter_append _ _

theorem withoutLog_logs (logs : List Log.Entry) : withoutLog (logs.map .log) = [] :=
  List.filter_eq_nil_iff.2 fun o ho => by
    obtain ⟨e, _, rfl⟩ := List.mem_map.1 ho
    simp [Order.isLog]

theorem emitted_of_bare {t : Server} (h : t.bare = s.bare) :
    (t.events.drop s.events.length).map (fun e => (s.session.clock, e)) = [] := by
  have hevents : t.bare.events = s.bare.events := congrArg Server.events h
  rw [show t.events = s.events from hevents, List.drop_length, List.map_nil]

/-- **What a server does** in a run is up to its deeds, less the frames that come to nothing. -/
theorem inTurn_purged (s : Server) (xs : List Step) :
    (inTurn step s xs).1.bare = (inTurn does s.bare (s.purged xs)).1 ∧
      withoutLog (inTurn step s xs).2 = withoutLog (inTurn does s.bare (s.purged xs)).2 ∧
      emissions step s xs = emissions does s.bare (s.purged xs) := by
  induction xs generalizing s with
  | nil => exact ⟨rfl, rfl, rfl⟩
  | cons x xs ih =>
    obtain ⟨hbare, horders, hemissions⟩ := ih (s.step x).1
    rw [inTurn_cons, withoutLog_append, emissions]
    cases hd : s.deed? x with
    | none =>
      obtain ⟨hstep, hnone⟩ := bare_step_of_none hd
      simp only [purged, hd]
      rw [hstep] at hbare horders hemissions
      rw [emitted_of_bare hstep, hnone]
      exact ⟨hbare, horders, hemissions⟩
    | some d =>
      obtain ⟨hstep, hdone⟩ := bare_step hd
      simp only [purged, hd]
      by_cases hg : s.isGarbage d = true
      · obtain ⟨logs, hdoes⟩ := does_of_isGarbage hg
        rw [hdoes] at hstep hdone
        rw [hstep] at hbare horders hemissions
        rw [if_pos hg, emitted_of_bare hstep, hdone, withoutLog_logs]
        exact ⟨hbare, horders, hemissions⟩
      · have hdoes : s.bare.does d = ((s.step x).1.bare, (s.step x).2) := by
          rw [hstep, hdone]
          exact does_withInput s (apart_of_deed? hd) [] false
        rw [if_neg hg, inTurn_cons, withoutLog_append, emissions, hdoes]
        exact ⟨hbare, congrArg _ horders, congrArg _ hemissions⟩

theorem purged_append (s : Server) (xs ys : List Step) :
    s.purged (xs ++ ys) = s.purged xs ++ (inTurn step s xs).1.purged ys := by
  induction xs generalizing s with
  | nil => rfl
  | cons x xs ih =>
    rw [List.cons_append, purged, purged, inTurn_cons, ih]
    cases s.deed? x with
    | none => rfl
    | some d =>
      dsimp only
      split_ifs <;> rfl

theorem purged_inserted {g body : List UInt8} (hphase : s.phase = .reading) (hinput : s.input = [])
    (hread : Frame.read s.inputEnded g = .body body []) (hg : s.Garbage body) (after : List Step) :
    s.purged (.receive g :: .read :: after) = s.purged after := by
  obtain ⟨logs, hdoes⟩ := does_garbage hg
  have hgarbage := isGarbage_frame_iff.2 hg
  obtain ⟨session, events, workspace, connection, answers, _, inputEnded, _⟩ := s
  subst hphase hinput
  simp only [purged, deed?, step, List.nil_append, readFrame, hread]
  exact (if_pos hgarbage).trans (congrArg (fun r => purged r.1 after) hdoes)

/-- **Garbage leaves no trace**: but for what is logged, a run is the same without the frames that
come to nothing. -/
theorem garbage_leaves_no_trace (s : Server) :
    (∀ xs ys, s.purged xs = s.purged ys →
      let r := inTurn step s xs
      let r' := inTurn step s ys
      emissions step s xs = emissions step s ys ∧ withoutLog r.2 = withoutLog r'.2 ∧
        r.1.session = r'.1.session ∧ r.1.events = r'.1.events ∧
        r.1.workspace = r'.1.workspace ∧ r.1.connection = r'.1.connection ∧
        r.1.answers = r'.1.answers ∧ r.1.phase = r'.1.phase) ∧
      ∀ before after g body,
        let t := (inTurn step s before).1
        t.phase = .reading → t.input = [] → Frame.read t.inputEnded g = .body body [] →
          t.Garbage body →
            s.purged (before ++ .receive g :: .read :: after) = s.purged (before ++ after) := by
  refine ⟨fun xs ys h => ?_, fun before after g body => ?_⟩
  · obtain ⟨hbare, horders, hemissions⟩ := inTurn_purged s xs
    obtain ⟨hbare', horders', hemissions'⟩ := inTurn_purged s ys
    rw [h] at hbare horders hemissions
    have hsame : (inTurn step s xs).1.bare = (inTurn step s ys).1.bare := hbare.trans hbare'.symm
    refine ⟨hemissions.trans hemissions'.symm, horders.trans horders'.symm, ?_⟩
    simpa only [bare, withInput, Server.mk.injEq, true_and, and_true] using hsame
  · intro t hphase hinput hread hg
    rw [purged_append, purged_append]
    exact congrArg _ (purged_inserted hphase hinput hread hg after)

set_option maxRecDepth 4000 in
/-- Between the opening of a document and its first edit comes a notification that does not exist.
The same events are emitted at the same times as without it. -/
theorem unknown_notification_passed_over :
    let settings : Settings :=
      ⟨⟨"jsonlint", "npx", "npm", [], ⟨"/tmp"⟩, "json", by decide, by decide, by decide, by decide⟩,
        300⟩
    let opening := "Content-Length:61\n\n\x7b\"method\":\"textDocument/didOpen\"," ++
      "\"params\":[[\"a\",\"json\",\"x\"]]\x7d"
    let editing := "Content-Length:60\n\n\x7b\"method\":\"textDocument/didChange\"," ++
      "\"params\":[[\"a\"],[[\"y\"]]]\x7d"
    let g := Frame.bytes (.object [("method", .string "x")])
    let before : List Step := [.receive (Text.Utf8.encode opening.toList), .read]
    let after : List Step := [.receive (Text.Utf8.encode editing.toList), .read, .elapse 300, .fire]
    let s := (start settings none true).1
    let mixed := before ++ .receive g :: .read :: after
    s.purged mixed = s.purged (before ++ after) ∧
      emissions step s mixed =
        [(0, .added ⟨1⟩ ⟨⟨"a"⟩, "json", "x"⟩), (300, .settled ⟨1⟩ ⟨⟨"a"⟩, "json", "y"⟩)] := by
  intro settings opening editing g before after s mixed
  let unknown : Json := .object [("method", .string "x")]
  have hlength : unknown.render.utf8ByteSize ≤ Frame.maxLength := by decide +kernel
  have hread : Frame.read (inTurn step s before).1.inputEnded g =
      .body (Text.Utf8.encode unknown.render.toList) [] := by
    have hp := Frame.read_packet (inTurn step s before).1.inputEnded
      (Frame.Packet.ofJson unknown hlength) []
    rwa [List.append_nil, Frame.bytes_ofJson] at hp
  have hbody : Json.ofBytes? (Text.Utf8.encode unknown.render.toList) = some unknown := by
    refine Json.ofBytes?_render (.object (by decide +kernel) ?_) (by decide +kernel)
    exact List.forall_mem_singleton.2 (.string _)
  have hg : (inTurn step s before).1.Garbage (Text.Utf8.encode unknown.render.toList) :=
    .ignored hbody rfl (.unknown (by decide) (by decide) (by decide) (by decide))
  have hphase : (inTurn step s before).1.phase = .reading := by decide +kernel
  obtain ⟨hsame, hinserted⟩ := garbage_leaves_no_trace s
  have hpurged := hinserted before after g _ hphase (by decide +kernel) hread hg
  obtain ⟨hemissions, -⟩ := hsame mixed (before ++ after) hpurged
  exact ⟨hpurged, hemissions.trans (by decide +kernel)⟩

end Server

end LintServer
