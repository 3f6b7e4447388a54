import LintServer.Proofs.Server.Answering

/-!
# A server gets to its end

When the session is over, or will be because no more bytes come, nothing keeps a server from
stopping its writer: it reads what has arrived, handles the events, and writes the line, as long as
it is told that its frames have been written.

* `Step.Clears`, `Server.Reaches`: the steps that are needed, and where they lead;
* `reaches_over`: all frames are read;
* `reaches_handled`: all events are handled;
* `reaches_stopped_of_mem`: the line is written up to the sign to stop;
* **`Answering.reaches_stopped`**: one behind the other.
-/

namespace LintServer

theorem Connection.mem_line_put (c : Connection) (i : Item) :
    i ∈ (c.put i).line ∨ (c.put i).isOpen = false := by
  rw [isOpen_put]
  cases hopen : c.isOpen with
  | false => exact .inr rfl
  | true =>
    rw [Connection.put, if_pos hopen]
    exact .inl (List.mem_append_right _ List.mem_cons_self)

theorem Connection.writer_of_closed {c : Connection} (h : c.isOpen = false) :
    c.writer = .stopped :=
  not_not.1 (of_decide_eq_false h)

namespace Server

variable {s s' : Server}

/-- The steps that a server makes by itself on the way to its end, and the reports that its frames
have been written. -/
def Step.Clears : Step → Prop
  | read | handle | stop | write => True
  | written r => r = .ok ()
  | _ => False

theorem Step.Clears.bytes {x : Step} (h : x.Clears) : x.bytes = [] := by
  cases x with
  | receive bytes => exact h.elim
  | _ => rfl

/-- Such steps lead from one state to another. -/
def Reaches (s s' : Server) : Prop :=
  ∃ ys : List Step, (∀ y ∈ ys, y.Clears) ∧ (inTurn step s ys).1 = s'

namespace Reaches

theorem refl (s : Server) : s.Reaches s := ⟨[], fun _ h => absurd h List.not_mem_nil, rfl⟩

theorem head {x : Step} (h : (s.step x).1.Reaches s') (hx : x.Clears) : s.Reaches s' := by
  obtain ⟨ys, hys, rfl⟩ := h
  refine ⟨x :: ys, List.forall_mem_cons.2 ⟨hx, hys⟩, ?_⟩
  rw [inTurn_cons]

theorem trans {s'' : Server} (h : s.Reaches s') (h' : s'.Reaches s'') : s.Reaches s'' := by
  obtain ⟨xs, hxs, rfl⟩ := h
  obtain ⟨ys, hys, rfl⟩ := h'
  refine ⟨xs ++ ys, List.forall_mem_append.2 ⟨hxs, hys⟩, ?_⟩
  rw [inTurn_append]

end Reaches

/-! ## Reading -/

theorem readFrame_of_body {body rest : List UInt8}
    (h : Frame.read s.inputEnded s.input = .body body rest) :
    ∃ r, s.readFrame = { s with input := rest }.follow r :=
  ⟨_, by simp only [readFrame, h]; rfl⟩

/-- All frames are read, and the session is over. Each frame leaves fewer bytes. -/
theorem reaches_over (hended : s.inputEnded = true) (hreading : s.phase = .reading) :
    ∃ s' r, s.Reaches s' ∧ s'.phase = .over r := by
  induction hn : s.input.length using Nat.strongRecOn generalizing s with
  | ind n ih =>
    have hclears : Step.read.Clears := trivial
    have hstep : s.step .read = s.readFrame := by simp only [step, hreading]
    cases hread : Frame.read s.inputEnded s.input with
    | more =>
      rw [hended] at hread
      exact absurd hread (Frame.read_ended_ne_more _)
    | closed =>
      refine ⟨_, .ok (), .head (.refl _) hclears, ?_⟩
      simp only [hstep, readFrame, hread, leave]
    | failed e =>
      refine ⟨_, .error e, .head (.refl _) hclears, ?_⟩
      simp only [hstep, readFrame, hread, leave]
    | body body rest =>
      obtain ⟨r, hr⟩ := readFrame_of_body hread
      have hphase := follow_phase { s with input := rest } r
      rw [← hr, ← hstep] at hphase
      split_ifs at hphase
      · exact ⟨_, _, .head (.refl _) hclears, hphase⟩
      · have hless : (s.step .read).1.input.length < n := by
          rw [hstep, hr, follow_input, ← hn]
          exact Frame.length_rest_read hread
        have hstill : (s.step .read).1.inputEnded = true := by
          rw [hstep, hr, follow_inputEnded]
          exact hended
        obtain ⟨s', r', hreach, hover⟩ := ih _ hless hstill (hphase.trans hreading) rfl
        exact ⟨s', r', hreach.head hclears, hover⟩

/-! ## Events -/

theorem reaches_handled {r : Except FrameError Unit} (hover : s.phase = .over r) :
    ∃ s', s.Reaches s' ∧ s'.phase = .over r ∧ s'.events = [] := by
  induction hevents : s.events generalizing s with
  | nil => exact ⟨s, .refl s, hover, hevents⟩
  | cons e rest ih =>
    have hclears : Step.handle.Clears := trivial
    have hstep : s.step .handle = { s with events := rest }.absorb (s.workspace.handle e) := by
      simp only [step, hevents]
    obtain ⟨s', hreach, hs'⟩ := ih (s := (s.step .handle).1)
      (by rw [hstep, absorb_phase, hover]) (by rw [hstep, absorb_events])
    exact ⟨s', hreach.head hclears, hs'⟩

/-! ## Writing -/

theorem step_write {c : Connection} {f : Option Json} (h : s.connection.next? = some (c, f)) :
    (s.step .write).1 = { s with connection := c } := by
  simp only [step, writeNext, h]
  cases f <;> rfl

theorem reaches_stopped_of_idle {line : List Connection.Item}
    (hline : s.connection.line = line) (hidle : s.connection.writer = .idle) (hstop : .stop ∈ line) :
    ∃ s', s.Reaches s' ∧ s'.connection.writer = .stopped := by
  have hwrite : Step.write.Clears := trivial
  have hwritten : Step.Clears (.written (.ok ())) := rfl
  induction line generalizing s with
  | nil => exact absurd hstop List.not_mem_nil
  | cons i rest ih =>
    cases i with
    | frame f =>
      have hnext : s.connection.next? =
          some ({ s.connection with line := rest, writer := .writing }, some f) := by
        simp only [Connection.next?, hidle, hline]
      have hrest : .stop ∈ rest := by simpa using hstop
      obtain ⟨s', hreach, hs'⟩ := ih (s := ((s.step .write).1.step (.written (.ok ()))).1)
        (by rw [step_write hnext]; rfl) (by rw [step_write hnext]; rfl) hrest
      exact ⟨s', (hreach.head hwritten).head hwrite, hs'⟩
    | stop =>
      have hnext : s.connection.next? =
          some ({ s.connection with line := [], writer := .stopped }, none) := by
        simp only [Connection.next?, hidle, hline]
      refine ⟨_, .head (.refl _) hwrite, ?_⟩
      rw [step_write hnext]

theorem reaches_stopped_of_mem
    (h : .stop ∈ s.connection.line ∨ s.connection.isOpen = false) :
    ∃ s', s.Reaches s' ∧ s'.connection.writer = .stopped := by
  rcases h with hstop | hclosed
  · cases hwriter : s.connection.writer with
    | idle => exact reaches_stopped_of_idle rfl hwriter hstop
    | writing =>
      have hclears : Step.Clears (.written (.ok ())) := rfl
      have hstep : (s.step (.written (.ok ()))).1 =
          { s with connection := { s.connection with writer := .idle } } := by
        simp only [step, takeWritten, Connection.written, if_pos hwriter]
      obtain ⟨s', hreach, hs'⟩ := reaches_stopped_of_idle (s := (s.step (.written (.ok ()))).1)
        rfl (by rw [hstep]) (by rw [hstep]; exact hstop)
      exact ⟨s', hreach.head hclears, hs'⟩
    | stopped => exact ⟨s, .refl s, hwriter⟩
  · exact ⟨s, .refl s, Connection.writer_of_closed hclosed⟩

/-! ## The end -/

theorem reaches_stopped_of_over {r : Except FrameError Unit} (hover : s.phase = .over r) :
    ∃ s', s.Reaches s' ∧ s'.connection.writer = .stopped := by
  have hclears : Step.stop.Clears := trivial
  obtain ⟨s₁, hreach₁, hover₁, hevents⟩ := reaches_handled hover
  have hstep : (s₁.step .stop).1 =
      { s₁ with connection := s₁.connection.put .stop, phase := .stopping r } := by
    simp only [step, hover₁, hevents]
  have hmem := s₁.connection.mem_line_put .stop
  obtain ⟨s', hreach, hs'⟩ := reaches_stopped_of_mem (s := (s₁.step .stop).1) (by rwa [hstep])
  exact ⟨s', hreach₁.trans (hreach.head hclears), hs'⟩

/-- **A server gets to its end** when the session is over or no more bytes come. -/
theorem Answering.reaches_stopped {xs : List Step} {orders : List Order} {read : List Json}
    (h : s.Answering xs orders read) (hend : s.inputEnded = true ∨ s.phase ≠ .reading) :
    ∃ s', s.Reaches s' ∧ s'.connection.writer = .stopped := by
  have htold := h.owes.mem_of_told
  rcases hphase : s.phase with _ | r | r | r
  · obtain ⟨s₁, r, hreach₁, hover⟩ :=
      reaches_over (hend.resolve_right fun hne => hne hphase) hphase
    obtain ⟨s', hreach, hs'⟩ := reaches_stopped_of_over hover
    exact ⟨s', hreach₁.trans hreach, hs'⟩
  · exact reaches_stopped_of_over hphase
  · rw [hphase] at htold
    exact reaches_stopped_of_mem (htold trivial)
  · rw [hphase] at htold
    exact reaches_stopped_of_mem (htold trivial)

end Server

end LintServer
