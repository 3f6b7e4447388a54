import LintServer.Proofs.Connection.Relay
import LintServer.Proofs.Session.Requests

/-!
# Replies on their way

Replies stand in one line with notices and requests of the server, and the sign to stop comes in
the same line. The line is taken from the front, so no reply is passed over: those that have been
taken and those that stand before the sign are the replies that are due, until a frame cannot be
written.

* `Connection.ahead`: the frames that will still be taken;
* **`Connection.Owes`**: what has been taken and what will be, against what is due;
* `Owes.of_open`, `Owes.of_closed`: how it is shown;
* `Owes.put`, `Owes.send`, `Owes.stop`: what goes in line;
* `Owes.tell`, `Owes.notify`, `Owes.showConfig`: nothing else is a reply;
* `Owes.next`, `Owes.written`: the writer.
-/

namespace LintServer

namespace Outgoing

theorem isReply_notification (method : String) (params : Json) :
    isReply (notification method params) = false := by
  simp [isReply, notification, Json.get?_ofFields, List.lookup_cons]

theorem isReply_request (id : Nat) (method : String) (params : Json) :
    isReply (request id method params) = false := by
  simp [isReply, request, Json.get?_ofFields, List.lookup_cons]

end Outgoing

open Outgoing (isReply)

theorem Notice.isReply_frame (n : Notice) : isReply n.frame = false :=
  Outgoing.isReply_notification _ _

namespace Connection

/-! ## The line up to the sign to stop -/

/-- The frames in a line that stand before the sign to stop. -/
def Item.before : List Item → List Json
  | .frame f :: items => f :: before items
  | _ => []

theorem Item.before_append {l : List Item} (h : .stop ∉ l) (items : List Item) :
    before (l ++ items) = before l ++ before items := by
  induction l with
  | nil => rfl
  | cons i l ih =>
    obtain ⟨hi, hl⟩ := not_or.1 fun hor => h (List.mem_cons.2 hor)
    cases i with
    | frame f => exact congrArg (f :: ·) (ih hl)
    | stop => exact absurd rfl hi

theorem Item.before_append_of_mem {l : List Item} (h : .stop ∈ l) (items : List Item) :
    before (l ++ items) = before l := by
  induction l with
  | nil => exact absurd h List.not_mem_nil
  | cons i l ih =>
    cases i with
    | frame f =>
      rcases List.mem_cons.1 h with hf | hl
      · cases hf
      · exact congrArg (f :: ·) (ih hl)
    | stop => rfl

/-- The frames that will still be taken. -/
def ahead (c : Connection) : List Json := Item.before c.line

/-! ## What is due -/

/-- The replies among the frames that have been taken and those that will be are the ones that are
due. They are fewer only if a frame could not be written; otherwise the writer stops only when it
has been told to, and as long as it has not stopped the sign to do so stands in line. -/
structure Owes (c : Connection) (told failed : Prop) (taken due : List Json) : Prop where
  is_prefix : (taken ++ c.ahead).filter isReply <+: due
  eq_due : c.isOpen = true ∨ ¬ failed → (taken ++ c.ahead).filter isReply = due
  line_empty : c.isOpen = false → c.line = []
  stopped : c.isOpen = false → ¬ failed → told
  told_of_mem : .stop ∈ c.line → told
  mem_of_told : told → .stop ∈ c.line ∨ c.isOpen = false

variable {c c' : Connection} {told told' failed failed' : Prop} {taken due : List Json}

namespace Owes

theorem of_open (hopen : c.isOpen = true) (hdue : (taken ++ c.ahead).filter isReply = due)
    (htold : .stop ∈ c.line ↔ told) : c.Owes told failed taken due := by
  have hstill : c.isOpen ≠ false := ne_false_of_eq_true hopen
  refine ⟨?_, fun _ => hdue, fun hc => absurd hc hstill, fun hc => absurd hc hstill, htold.1,
    fun ht => .inl (htold.2 ht)⟩
  rw [hdue]

/-- When the writer has stopped nothing is left in line. -/
theorem of_closed (hclosed : c.isOpen = false) (hline : c.line = [])
    (hpart : taken.filter isReply <+: due)
    (hok : ¬ failed → told ∧ taken.filter isReply = due) : c.Owes told failed taken due := by
  have hahead : taken ++ c.ahead = taken := by
    rw [ahead, hline]
    exact List.append_nil taken
  refine ⟨?_, fun ho => ?_, fun _ => hline, fun _ hn => (hok hn).1, fun hm => ?_,
    fun _ => .inr hclosed⟩
  · rw [hahead]
    exact hpart
  · rw [hahead]
    rcases ho with ho | hn
    · exact absurd ho (ne_true_of_eq_false hclosed)
    · exact (hok hn).2
  · rw [hline] at hm
    exact absurd hm List.not_mem_nil

theorem mem_iff (h : c.Owes told failed taken due) (hopen : c.isOpen = true) :
    .stop ∈ c.line ↔ told := by
  refine ⟨h.told_of_mem, fun ht => (h.mem_of_told ht).resolve_right fun hclosed => ?_⟩
  exact absurd hopen (ne_true_of_eq_false hclosed)

theorem mono (h : c.Owes told failed taken due) (ht : told ↔ told') (hf : failed → failed') :
    c.Owes told' failed' taken due where
  is_prefix := h.is_prefix
  eq_due ho := h.eq_due (ho.imp_right fun hn hfailed => hn (hf hfailed))
  line_empty := h.line_empty
  stopped hc hn := ht.1 (h.stopped hc fun hfailed => hn (hf hfailed))
  told_of_mem hm := ht.1 (h.told_of_mem hm)
  mem_of_told ht' := h.mem_of_told (ht.2 ht')

theorem of_eq (h : c.Owes told failed taken due) (hline : c'.line = c.line)
    (hwriter : c'.writer = c.writer) : c'.Owes told failed taken due := by
  have hopen : c'.isOpen = c.isOpen := by rw [isOpen, isOpen, hwriter]
  have hahead : c'.ahead = c.ahead := by rw [ahead, ahead, hline]
  refine ⟨?_, ?_, ?_, ?_, ?_, ?_⟩
  · rw [hahead]
    exact h.is_prefix
  · rw [hahead, hopen]
    exact h.eq_due
  · rw [hopen, hline]
    exact h.line_empty
  · rw [hopen]
    exact h.stopped
  · rw [hline]
    exact h.told_of_mem
  · rw [hline, hopen]
    exact h.mem_of_told

/-- An item goes in line, which tells the writer to stop if it is the sign. No reply goes in line
after that. -/
theorem put (h : c.Owes told failed taken due) {i : Item} (hi : told' ↔ told ∨ i = .stop)
    (hnone : told → (Item.before [i]).filter isReply = []) :
    (c.put i).Owes told' failed taken (due ++ (Item.before [i]).filter isReply) := by
  cases hopen : c.isOpen with
  | false =>
    have hsame : c.put i = c := by
      rw [Connection.put, hopen]
      rfl
    have hline := h.line_empty hopen
    have htaken : (taken ++ c.ahead).filter isReply = taken.filter isReply := by
      rw [ahead, hline]
      exact congrArg _ (List.append_nil taken)
    rw [hsame]
    refine of_closed hopen hline ?_ fun hn => ?_
    · rw [← htaken]
      exact h.is_prefix.trans (List.prefix_append _ _)
    · have ht := h.stopped hopen hn
      rw [hnone ht, List.append_nil, ← htaken]
      exact ⟨hi.2 (.inl ht), h.eq_due (.inr hn)⟩
  | true =>
    have hline : (c.put i).line = c.line ++ [i] := by rw [Connection.put, if_pos hopen]
    have hdue : (taken ++ (c.put i).ahead).filter isReply =
        due ++ (Item.before [i]).filter isReply := by
      rw [← h.eq_due (.inl hopen), ahead, ahead, hline]
      by_cases hstop : .stop ∈ c.line
      · rw [Item.before_append_of_mem hstop, hnone (h.told_of_mem hstop), List.append_nil]
      · rw [Item.before_append hstop, ← List.append_assoc, List.filter_append]
    refine of_open ((isOpen_put c i).trans hopen) hdue ?_
    rw [hline, List.mem_append, List.mem_singleton, h.mem_iff hopen, hi, eq_comm]

theorem send (h : c.Owes told failed taken due) (ht : ¬ told) (f : Json) :
    (c.send f).Owes told failed taken (due ++ [f].filter isReply) := by
  have hi : told ↔ told ∨ Item.frame f = .stop := by simp
  exact h.put hi fun hstop => absurd hstop ht

theorem send_other (h : c.Owes told failed taken due) {f : Json} (hf : isReply f = false) :
    (c.send f).Owes told failed taken due := by
  have hi : told ↔ told ∨ Item.frame f = .stop := by simp
  have hnone : (Item.before [.frame f]).filter isReply = [] :=
    List.filter_cons_of_neg (ne_true_of_eq_false hf)
  have hput := h.put hi fun _ => hnone
  rwa [hnone, List.append_nil] at hput

theorem tell (h : c.Owes told failed taken due) (n : Notice) :
    (c.tell n).Owes told failed taken due := by
  rw [tell_eq]
  exact h.send_other n.isReply_frame

theorem notify (h : c.Owes told failed taken due) (n : Notification) :
    (c.notify n).1.Owes told failed taken due := by
  simp only [Connection.notify]
  split_ifs
  · have hwaits : Owes { c with requests := c.requests + 1
                                pending := c.pending.insert (c.requests + 1) n }
        told failed taken due :=
      h.of_eq rfl rfl
    exact hwaits.send_other (Outgoing.isReply_request _ _ _)
  · exact h.of_eq rfl rfl

theorem showConfig (h : c.Owes told failed taken due) :
    c.showConfig.1.Owes told failed taken due := by
  unfold Connection.showConfig
  split
  · exact h
  · split
    · exact h
    · simp only []
      split_ifs
      · have hcounts : Owes { c with requests := c.requests + 1 } told failed taken due :=
          h.of_eq rfl rfl
        exact hcounts.send_other (Outgoing.isReply_request _ _ _)
      · exact h.of_eq rfl rfl

theorem answer (h : c.Owes told failed taken due) {id : Nat} {body : Json}
    {r : Connection × Except HostError (Option Nat)} (hr : c.answer? id body = some r) :
    r.1.Owes told failed taken due := by
  obtain ⟨n, _, rfl⟩ := Option.map_eq_some_iff.1 hr
  exact h.of_eq rfl rfl

/-! ## The writer -/

theorem stop (h : c.Owes told failed taken due) (ht : told') :
    (c.put .stop).Owes told' failed taken due := by
  have hi : told' ↔ told ∨ Item.stop = .stop := by simp [ht]
  have hput := h.put hi fun _ => rfl
  rwa [show (Item.before [.stop]).filter isReply = [] from rfl, List.append_nil] at hput

theorem next (h : c.Owes told failed taken due) {f : Option Json} (hn : c.next? = some (c', f)) :
    c'.Owes told failed (taken ++ f.toList) due := by
  obtain ⟨line, writer, requests, pending, configPath⟩ := c
  cases writer with
  | idle =>
    rcases line with _ | ⟨g | _, rest⟩
    · cases hn
    · cases hn
      -- The frame moves from the line to those that have been taken.
      have hmoved : taken ++ [g] ++ Item.before rest = taken ++ Item.before (.frame g :: rest) :=
        List.append_assoc _ _ _
      refine of_open rfl ((congrArg (List.filter isReply) hmoved).trans (h.eq_due (.inl rfl))) ?_
      rw [← h.mem_iff rfl]
      simp
    · cases hn
      have htold := h.told_of_mem List.mem_cons_self
      have hdue : (taken ++ []).filter isReply = due := h.eq_due (.inl rfl)
      rw [List.append_nil] at hdue
      rw [Option.toList_none, List.append_nil]
      exact of_closed rfl rfl (by rw [hdue]) fun _ => ⟨htold, hdue⟩
  | writing => cases hn
  | stopped => cases hn

theorem written (h : c.Owes told failed taken due) {r : Except Fault Unit}
    (hr : ∀ f, r = .error f → failed) : (c.written r).Owes told failed taken due := by
  unfold Connection.written
  split_ifs with hw
  · have hopen : c.isOpen = true := by simp [isOpen, hw]
    cases r with
    | ok _ => exact of_open rfl (h.eq_due (.inl hopen)) (h.mem_iff hopen)
    | error e =>
      have htaken : taken.filter isReply <+: due :=
        ((List.prefix_append taken c.ahead).filter isReply).trans h.is_prefix
      exact of_closed rfl rfl htaken fun hn => absurd (hr e rfl) hn
  · exact h

end Owes

end Connection

end LintServer
