import LintServer.Proofs.Linter.Tickets
import LintServer.Proofs.Publisher.Staleness
import Mathlib.Data.List.Induction

/-!
# Runs of a linter

A linter reaches its publisher only through its marks: a ticket is issued when the validator starts,
and comes back when the run has ended, be it with findings or without. So every run of a linter is
one of its publisher, and in it no ticket comes back twice, so that the law of staleness holds of it.

* `Linter.run`, `Linter.marks`: the linter after some actions, and what is remembered of them;
* `Mark.operation?`, **`publisher_run`**: what the publisher is asked to do;
* `endedIn`, `underWay`: the tickets of the runs that have ended, and of those that have not;
* `Publisher.numbers_issuedIn`: tickets are numbered in a row;
* **`tickets_kept`**, `tickets_perm`: the tickets of the attempts;
* `honest_operations`: no ticket comes back twice;
* **`effects_ended`**: a run that has ended is applied exactly if nothing has outdated its ticket.
-/

namespace LintServer

open Publisher (Operation Honest Outdated issuedIn returnedIn outIn)

namespace Mark

/-- What a mark is to the publisher. -/
def operation? : Mark → Option Operation
  | asked _ _ => none
  | started _ t _ => some (.begin t.uri)
  | ended _ t (.ok run) => some (.complete t run.findings)
  | ended _ t (.error _) => some (.abandon t)
  | replaced u findings => some (.publish u findings)
  | removed u => some (.retract u)

theorem ticket?_operation? (m : Mark) :
    m.operation?.bind Operation.ticket? = m.ended? := by
  cases m with
  | ended id t outcome => cases outcome <;> rfl
  | _ => rfl

end Mark

/-- The tickets of the runs that have ended. -/
def endedIn (h : List Mark) : List Ticket := h.filterMap Mark.ended?

/-- The tickets of the runs that have started and have not ended. -/
def underWay (h : List Mark) : List Ticket := (startedIn h).filter (· ∉ endedIn h)

theorem endedIn_append (h h' : List Mark) : endedIn (h ++ h') = endedIn h ++ endedIn h' :=
  List.filterMap_append

/-! ## Numbers of tickets -/

namespace Publisher

theorem returnedIn_record (p : Publisher) (ops : List Operation) :
    returnedIn (p.record ops) = ops.filterMap Operation.ticket? := by
  induction ops generalizing p with
  | nil => rfl
  | cons o ops ih =>
    rw [record, returnedIn, List.filterMap_cons, ← returnedIn, ih, List.filterMap_cons]
    rfl

theorem number_of_issued {p : Publisher} {o : Operation} {t : Ticket}
    (h : (p.entry o).answer.ticket? = some t) : t.number = p.issued + 1 := by
  cases o with
  | begin u =>
    cases h
    rfl
  | _ => cases h

/-- The tickets are numbered in a row, and the publisher knows the last number. -/
theorem numbers_issuedIn (p : Publisher) (ops : List Operation) :
    ∃ n, (issuedIn (p.record ops)).map Ticket.number = List.range' (p.issued + 1) n ∧
      (p.run ops).issued = p.issued + n := by
  induction ops generalizing p with
  | nil => exact ⟨0, rfl, rfl⟩
  | cons o ops ih =>
    obtain ⟨n, hmap, hrun⟩ := ih (p.step o).1
    have hstep := issued_step p o
    change ∃ n, _ ∧ ((p.step o).1.run ops).issued = _
    rw [record, issuedIn, List.filterMap_cons, ← issuedIn]
    cases ht : (p.entry o).answer.ticket? with
    | none =>
      rw [ht, Option.toList_none, List.length_nil, Nat.add_zero] at hstep
      exact ⟨n, hstep ▸ hmap, hstep ▸ hrun⟩
    | some t =>
      rw [ht, Option.toList_some, List.length_singleton] at hstep
      refine ⟨n + 1, ?_, by rw [hrun, hstep]; omega⟩
      rw [List.map_cons, hmap, hstep, number_of_issued ht, List.range'_succ]

theorem numbers_issuedIn_empty (ops : List Operation) :
    (issuedIn (empty.record ops)).map Ticket.number = List.range' 1 (empty.run ops).issued := by
  obtain ⟨n, hmap, hrun⟩ := numbers_issuedIn empty ops
  rw [hmap, hrun, show empty.issued = 0 from rfl, Nat.zero_add, Nat.zero_add]

end Publisher

namespace Linter

variable {l l' : Linter} {m : Option Mark} {ns : List Notice}

/-! ## One action -/

theorem publisher_change (hc : Change l l' m ns) : l'.publisher =
    (m.bind Mark.operation?).elim l.publisher fun o => (l.publisher.step o).1 := by
  cases hc with
  | asked d stage hstage hattempts hpublisher hnext => exact hpublisher
  | started id u text hget hattempts hpublisher hnext => exact hpublisher
  | completed id u text t run hget hattempts hpublisher hnext => exact hpublisher
  | abandoned id u text t e hget hattempts hpublisher hnext => exact hpublisher
  | replaced u findings hattempts hpublisher hnext => exact hpublisher
  | removed u hattempts hpublisher hnext => exact hpublisher
  | moved id u text old new hget hmove hlookup hattempts hpublisher hnext => exact hpublisher
  | skipped id u text tag hget htag hattempts hpublisher hnext => exact hpublisher
  | idle hattempts hpublisher hnext => exact hpublisher

theorem quiet_change (hc : Change l l' m ns) (hm : m.bind Mark.operation? = none) :
    l'.publisher = l.publisher ∧ ns = [] := by
  refine ⟨by rw [publisher_change hc, hm]; rfl, ?_⟩
  cases hc with
  | asked d stage hstage hattempts hpublisher hnext => rfl
  | moved id u text old new hget hmove hlookup hattempts hpublisher hnext => rfl
  | skipped id u text tag hget htag hattempts hpublisher hnext => rfl
  | idle hattempts hpublisher hnext => rfl
  | _ => cases hm

/-! ## Runs -/

/-- The linter after some actions. -/
def run (l : Linter) (as : List Action) : Linter := as.foldl (fun l a => (l.step a).1) l

/-- What is remembered of some actions. -/
def marks (l : Linter) : List Action → List Mark
  | [] => []
  | a :: as => (l.mark? a).toList ++ marks (l.step a).1 as

/-- What the publisher is asked to do in some actions. -/
def operations (l : Linter) (as : List Action) : List Operation :=
  (l.marks as).filterMap Mark.operation?

theorem run_concat (l : Linter) (as : List Action) (a : Action) :
    l.run (as ++ [a]) = ((l.run as).step a).1 := List.foldl_append

theorem marks_concat (l : Linter) (as : List Action) (a : Action) :
    l.marks (as ++ [a]) = l.marks as ++ ((l.run as).mark? a).toList := by
  induction as generalizing l with
  | nil => exact (List.append_nil _)
  | cons b as ih =>
    rw [List.cons_append, marks, ih, marks, List.append_assoc]
    rfl

theorem operations_concat (l : Linter) (as : List Action) (a : Action) :
    l.operations (as ++ [a]) =
      l.operations as ++ (((l.run as).mark? a).bind Mark.operation?).toList := by
  rw [operations, marks_concat, List.filterMap_append]
  cases hm : (l.run as).mark? a with
  | none => rfl
  | some m => cases ho : m.operation? <;> simp [operations, ho]

/-- **The publisher of a linter** has done what it has been asked to do, and nothing else. -/
theorem publisher_run (l : Linter) (as : List Action) :
    (l.run as).publisher = l.publisher.run (l.operations as) := by
  induction as using List.reverseRecOn with
  | nil => rfl
  | append_singleton as a ih =>
    rw [run_concat, operations_concat, publisher_change (change_step _ a), ih]
    cases ((l.run as).mark? a).bind Mark.operation? with
    | none => rw [Option.toList_none, List.append_nil]; rfl
    | some o => exact (Publisher.run_concat _ _ o).symm

theorem Orderly.run (h : l.Orderly) (as : List Action) : (l.run as).Orderly := by
  induction as using List.reverseRecOn with
  | nil => exact h
  | append_singleton as a ih =>
    rw [run_concat]
    exact ih.step a

/-! ## Tickets of a run -/

theorem issuedIn_operations (l : Linter) (as : List Action) :
    issuedIn (l.publisher.record (l.operations as)) = startedIn (l.marks as) := by
  induction as using List.reverseRecOn with
  | nil => rfl
  | append_singleton as a ih =>
    rw [operations_concat, marks_concat, Publisher.record_append, ← publisher_run, startedIn_append,
      issuedIn, List.filterMap_append, ← issuedIn, ih]
    refine congrArg _ ?_
    have hc := change_step (l.run as) a
    cases hm : (l.run as).mark? a with
    | none => rfl
    | some m =>
      rw [hm] at hc
      cases m with
      | started id t x =>
        have ht := hc.started_ticket.2.1
        exact congrArg (fun t => [t]) ht.symm
      | ended id t outcome => cases outcome <;> rfl
      | _ => rfl

theorem returnedIn_operations (l : Linter) (as : List Action) :
    returnedIn (l.publisher.record (l.operations as)) = endedIn (l.marks as) := by
  rw [Publisher.returnedIn_record, operations, List.filterMap_filterMap, endedIn]
  exact List.filterMap_congr fun m _ => m.ticket?_operation?

theorem outIn_operations (l : Linter) (as : List Action) :
    outIn (l.publisher.record (l.operations as)) = underWay (l.marks as) := by
  rw [outIn, issuedIn_operations, returnedIn_operations, underWay]

/-- **No ticket is lost.** Those that the attempts held at first and those that have been taken
since have come back, or the attempts still hold them. -/
theorem tickets_kept (h : l.Orderly) (as : List Action) :
    (l.tickets ++ startedIn (l.marks as)).Perm (endedIn (l.marks as) ++ (l.run as).tickets) := by
  induction as using List.reverseRecOn with
  | nil => exact List.perm_append_comm
  | append_singleton as a ih =>
    have hl := h.run as
    have hc := change_step (l.run as) a
    have ht := hl.tickets_change hc
    rw [marks_concat, run_concat, startedIn_append, endedIn_append, ← List.append_assoc]
    refine (ih.append_right _).trans ?_
    rw [List.append_assoc, List.append_assoc]
    refine List.Perm.append_left _ ?_
    cases hm : (l.run as).mark? a with
    | none =>
      rw [hm] at ht
      simpa [startedIn, endedIn] using ht.symm
    | some m =>
      rw [hm] at ht hc
      cases m with
      | started id t x => exact (List.perm_append_singleton t _).trans ht.symm
      | ended id t outcome =>
        obtain ⟨u, x, hget, _⟩ := hc.ended_attempt
        have herase := (List.perm_cons_erase (Orderly.mem_tickets hget)).trans (ht.symm.cons t)
        simpa [startedIn, endedIn, List.filterMap_cons, Mark.started?, Mark.ended?] using herase
      | _ =>
        simpa [startedIn, endedIn, List.filterMap_cons, Mark.started?, Mark.ended?] using ht.symm

/-! ## From the start -/

section Start

variable (s : ValidatorSettings) (installed : Bool) (as : List Action)

/-- **The tickets are numbered** from one, in the order in which their runs start. -/
theorem numbers_startedIn : (startedIn ((start s installed).1.marks as)).map Ticket.number =
    List.range' 1 ((start s installed).1.run as).publisher.issued := by
  rw [publisher_run, ← issuedIn_operations]
  exact Publisher.numbers_issuedIn_empty _

theorem nodup_startedIn : (startedIn ((start s installed).1.marks as)).Nodup :=
  List.Nodup.of_map _ (numbers_startedIn s installed as ▸ List.nodup_range')

/-- The attempts hold the tickets of the runs that have started and have not ended. -/
theorem tickets_perm : ((start s installed).1.run as).tickets.Perm
    (underWay ((start s installed).1.marks as)) := by
  have hperm : (startedIn ((start s installed).1.marks as)).Perm _ :=
    tickets_kept (orderly_start s installed) as
  have hnd := hperm.nodup_iff.1 (nodup_startedIn s installed as)
  have hfilter := hperm.filter fun t => decide (t ∉ endedIn ((start s installed).1.marks as))
  have hended : (endedIn ((start s installed).1.marks as)).filter
      (fun t => decide (t ∉ endedIn ((start s installed).1.marks as))) = [] :=
    List.filter_eq_nil_iff.2 fun t ht => by simpa using ht
  have hheld : ((start s installed).1.run as).tickets.filter
      (fun t => decide (t ∉ endedIn ((start s installed).1.marks as))) =
        ((start s installed).1.run as).tickets :=
    List.filter_eq_self.2 fun t ht => decide_eq_true fun hmem =>
      List.disjoint_of_nodup_append hnd hmem ht
  rw [List.filter_append, hended, hheld] at hfilter
  exact hfilter.symm

theorem mem_outIn_of_running {id : Nat} {u : Uri} {text : String} {t : Ticket}
    (hget : ((start s installed).1.run as).attempts.get? id = some ⟨u, text, .running t⟩) :
    t ∈ outIn (Publisher.empty.record ((start s installed).1.operations as)) := by
  have hmem := (tickets_perm s installed as).mem_iff.1 (Orderly.mem_tickets hget)
  rwa [← outIn_operations] at hmem

/-- No ticket comes back twice, and none that has not been issued. -/
theorem honest_operations : Honest ((start s installed).1.operations as) := by
  induction as using List.reverseRecOn with
  | nil => exact fun before o after t h => by simp [operations, marks] at h
  | append_singleton as a ih =>
    rw [operations_concat]
    cases ho : (((start s installed).1.run as).mark? a).bind Mark.operation? with
    | none => simpa using ih
    | some o =>
      refine Publisher.honest_concat_iff.2 ⟨ih, fun t ht => ?_⟩
      obtain ⟨m, hm, hmo⟩ := Option.bind_eq_some_iff.1 ho
      have hended : m.ended? = some t := by rw [← m.ticket?_operation?, hmo]; exact ht
      have hc := change_step ((start s installed).1.run as) a
      rw [hm] at hc
      obtain ⟨id, outcome, rfl⟩ := Mark.ended?_eq_some_iff.1 hended
      obtain ⟨u, x, hget, _⟩ := hc.ended_attempt
      exact mem_outIn_of_running s installed as hget

/-- **A run that has ended is applied** exactly if nothing has outdated its ticket. -/
theorem effects_ended {id : Nat} {u : Uri} {text : String} {t : Ticket}
    (hget : ((start s installed).1.run as).attempts.get? id = some ⟨u, text, .running t⟩)
    (r : Run) : (((start s installed).1.run as).step (.ended id (.ok r))).2 =
      if Outdated t (Publisher.empty.record ((start s installed).1.operations as)) then []
      else [.tell (.publish t.uri (r.findings.map Issue.ofFinding))] := by
  have hout := mem_outIn_of_running s installed as hget
  have hstale := (honest_operations s installed as).isStale_iff hout
  have hpublisher : ((start s installed).1.run as).publisher =
      Publisher.empty.run ((start s installed).1.operations as) := publisher_run _ as
  rw [← hpublisher] at hstale
  simp only [step, settle, hget]
  split_ifs with houtdated
  · rw [Publisher.complete_of_stale (hstale.2 houtdated)]
    rfl
  · rw [Publisher.complete_of_fresh (Bool.eq_false_iff.2 fun hs => houtdated (hstale.1 hs))]
    rfl

end Start

end Linter

end LintServer
