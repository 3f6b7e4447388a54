import LintServer.Proofs.Publisher.Record
import LintServer.Proofs.Table
import Mathlib.Data.Nat.PSub

/-!
# The account of tickets

Nothing keeps a ticket from coming back twice. The second time it is taken off the count of its
document all the same, at the expense of another ticket that is still out, and that one may find no
entry later. Even so a count is never lower than what is taken off it: an entry goes when it would
come to nothing, and where there is no entry nothing is taken off.

* `retire?`, `complete?`, `step?`: the operations, with no result when one is taken off nothing;
* `step?_eq_some_iff`: only an entry that counts nothing is in the way;
* `takenOff`: how many tickets have been taken off a count;
* `outstandingOf_step`, **`Positive.account_run`**: the account of a document balances;
* **`never_overdrawn`**: every operation has a result, whatever tickets come back.
-/

namespace LintServer.Publisher

variable {p : Publisher} {o : Operation}

/-! ## Taking one off a count -/

/-- Takes a ticket back like `retire`. One cannot be taken off a count of nothing. -/
def retire? (p : Publisher) (u : Uri) : Option Publisher :=
  match p.outstanding.get? u with
  | none => some p
  | some n => n.ppred.map fun m =>
    if m = 0 then
      { p with outstanding := p.outstanding.erase u, staleUpTo := p.staleUpTo.erase u }
    else { p with outstanding := p.outstanding.insert u m }

/-- Takes a ticket back with the findings of its run like `complete`. -/
def complete? (p : Publisher) (t : Ticket) (findings : List Finding) :
    Option (Publisher × Bool × List Notice) :=
  if p.isStale t then (p.retire? t.uri).map fun q => (q, false, [])
  else
    let r := { p with staleUpTo := p.staleUpTo.insert t.uri t.number }.apply t.uri findings
    (r.1.retire? t.uri).map fun q => (q, true, r.2)

/-- One operation of any kind like `step`. Counting up has no end, so only those that take a ticket
back can be without a result. -/
def step? (p : Publisher) : Operation → Option (Publisher × Answer × List Notice)
  | .complete t findings => (p.complete? t findings).map fun r => (r.1, .truth r.2.1, r.2.2)
  | .abandon t => (p.retire? t.uri).map fun q => (q, .done, [])
  | o => some (p.step o)

theorem retire?_eq (p : Publisher) (u : Uri) :
    p.retire? u = if p.outstanding.get? u = some 0 then none else some (p.retire u) := by
  unfold retire? retire
  cases p.outstanding.get? u with
  | none => rfl
  | some n =>
    cases n with
    | zero => rfl
    | succ m => cases m <;> simp

theorem complete?_eq (p : Publisher) (t : Ticket) (findings : List Finding) :
    p.complete? t findings =
      if p.outstanding.get? t.uri = some 0 then none else some (p.complete t findings) := by
  cases hs : p.isStale t with
  | true =>
    rw [complete?, if_pos hs, complete_of_stale hs, retire?_eq]
    split_ifs <;> rfl
  | false =>
    rw [complete?, if_neg (Bool.eq_false_iff.1 hs), complete_of_fresh hs]
    change ((p.accept t findings).retire? t.uri).map _ = _
    rw [retire?_eq]
    change (if p.outstanding.get? t.uri = some 0 then _ else _ : Option Publisher).map _ = _
    split_ifs <;> rfl

/-- Only an entry that counts nothing is in the way of an operation. -/
theorem step?_eq_some_iff : p.step? o = some (p.step o) ↔
    ∀ t, o.ticket? = some t → p.outstanding.get? t.uri ≠ some 0 := by
  cases o with
  | complete t findings => simp [step?, complete?_eq, step, Operation.ticket?]
  | abandon t => simp [step?, retire?_eq, step, abandon, Operation.ticket?]
  | begin u => exact iff_of_true rfl fun t ht => by cases ht
  | publish u findings => exact iff_of_true rfl fun t ht => by cases ht
  | retract u => exact iff_of_true rfl fun t ht => by cases ht

theorem Positive.step?_eq (h : p.Positive) (o : Operation) : p.step? o = some (p.step o) :=
  step?_eq_some_iff.2 fun t _ hz => Nat.lt_irrefl 0 (h t.uri 0 hz)

/-! ## The account of a document -/

/-- A ticket of a document comes back with an operation. -/
def Operation.Returns (o : Operation) (u : Uri) : Prop := o.ticket?.map Ticket.uri = some u

instance (o : Operation) (u : Uri) : Decidable (o.Returns u) := by
  unfold Operation.Returns
  infer_instance

/-- How many of the tickets of a document that come back with some operations find an entry. -/
def takenOff (u : Uri) (p : Publisher) : List Operation → Nat
  | [] => 0
  | o :: ops =>
    (if o.Returns u ∧ p.outstanding.contains u = true then 1 else 0) + takenOff u (p.step o).1 ops

/-- **What an operation does to the count of a document.** It makes no difference to the counts
whether a run is applied. -/
theorem outstandingOf_step (p : Publisher) (o : Operation) (u : Uri) :
    (p.step o).1.outstandingOf u =
      p.outstandingOf u + (if o = .begin u then 1 else 0) - if o.Returns u then 1 else 0 := by
  cases o with
  | begin v =>
    have hcount := outstandingOf_begin p v u
    simpa [step, Operation.Returns, Operation.ticket?] using hcount
  | complete t findings =>
    have hcount := outstandingOf_retire p t.uri u
    rw [← outstandingOf_congr (outstanding_complete p t findings)] at hcount
    simpa [step, Operation.Returns, Operation.ticket?] using hcount
  | abandon t =>
    have hcount := outstandingOf_retire p t.uri u
    simpa [step, abandon, Operation.Returns, Operation.ticket?] using hcount
  | publish v findings => exact outstandingOf_congr (invalidate_outstanding p v) u
  | retract v => exact outstandingOf_congr (invalidate_outstanding p v) u

namespace Positive

theorem step (h : p.Positive) (o : Operation) : (p.step o).1.Positive := by
  cases o with
  | begin u => exact h.begin u
  | complete t findings => exact (h.retire t.uri).congr (outstanding_complete p t findings)
  | abandon t => exact h.retire t.uri
  | publish u findings => exact h.congr (invalidate_outstanding p u)
  | retract u => exact h.congr (invalidate_outstanding p u)

theorem run (h : p.Positive) (ops : List Operation) : (p.run ops).Positive := by
  induction ops generalizing p with
  | nil => exact h
  | cons o ops ih => exact ih (h.step o)

/-- What is taken off a count has been there before. -/
theorem account_step (h : p.Positive) (o : Operation) (u : Uri) :
    (p.step o).1.outstandingOf u +
        (if o.Returns u ∧ p.outstanding.contains u = true then 1 else 0) =
      p.outstandingOf u + if o = .begin u then 1 else 0 := by
  rw [outstandingOf_step]
  by_cases hr : o.Returns u
  · have hb : o ≠ .begin u := by
      rintro rfl
      cases hr
    rw [if_neg hb, if_pos hr]
    -- The subtraction is exact if there is an entry, and without one there is nothing to subtract.
    by_cases hc : p.outstanding.contains u = true
    · have hpos := (h.contains_iff u).1 hc
      rw [if_pos ⟨hr, hc⟩]
      omega
    · have hnone := mt (h.contains_iff u).2 hc
      rw [if_neg (not_and_of_not_right _ hc)]
      omega
  · rw [if_neg hr, if_neg (not_and_of_not_left _ hr)]
    omega

/-- **The account balances** after any operations: the tickets that have been issued are those that
still count and those that have been taken off. -/
theorem account_run (h : p.Positive) (ops : List Operation) (u : Uri) :
    (p.run ops).outstandingOf u + takenOff u p ops =
      p.outstandingOf u + ops.count (.begin u) := by
  induction ops generalizing p with
  | nil => rfl
  | cons o ops ih =>
    have hstep := h.account_step o u
    have hrest := ih (h.step o)
    have hcount : (o :: ops).count (.begin u) =
        ops.count (.begin u) + if o = .begin u then 1 else 0 := by
      simp [List.count_cons]
    rw [hcount, takenOff, run_cons]
    omega

end Positive

theorem issued_run_le (p : Publisher) (ops : List Operation) :
    (p.run ops).issued ≤ p.issued + ops.length := by
  induction ops generalizing p with
  | nil => exact Nat.le_refl _
  | cons o ops ih =>
    have hstep := issued_step p o
    have hone : (p.entry o).answer.ticket?.toList.length ≤ 1 := Option.length_toList_le
    have hrest := ih (p.step o).1
    rw [run_cons, List.length_cons]
    omega

/-- **No count is overdrawn**, whatever tickets come back and however often: every operation has its
result, and every count is what has been issued without what has been taken off. -/
theorem never_overdrawn (ops : List Operation) :
    let p := empty.run ops
    (∀ n ∈ p.outstanding.values, 0 < n) ∧
      (∀ o, p.step? o = some (p.step o)) ∧
      (∀ u, p.outstandingOf u + takenOff u empty ops = ops.count (.begin u)) ∧
      p.issued ≤ ops.length ∧ ∀ u, p.outstandingOf u ≤ ops.length := by
  intro p
  have hempty : empty.Positive := balanced_empty.positive
  have hpos : p.Positive := hempty.run ops
  have haccount : ∀ u, p.outstandingOf u + takenOff u empty ops = ops.count (.begin u) :=
    fun u => (hempty.account_run ops u).trans (Nat.zero_add _)
  refine ⟨fun n hn => ?_, hpos.step?_eq, haccount, ?_, fun u => ?_⟩
  · obtain ⟨u, hu⟩ := (Table.mem_values_iff _ n).1 hn
    exact hpos u n hu
  · exact (issued_run_le empty ops).trans (Nat.le_of_eq (Nat.zero_add _))
  · calc p.outstandingOf u ≤ ops.count (.begin u) := (haccount u) ▸ Nat.le_add_right _ _
      _ ≤ ops.length := List.count_le_length

/-- A ticket comes back three times and takes the other one of its document with it, which is
applied all the same when it comes back. -/
theorem ticket_back_three_times :
    let a : Uri := ⟨"a"⟩
    let b : Uri := ⟨"b"⟩
    let ops : List Operation := [.begin a, .begin a, .begin b, .abandon ⟨a, 1⟩,
      .complete ⟨a, 1⟩ [], .abandon ⟨a, 1⟩]
    let p := empty.run ops
    (p.outstanding.values = [1] ∧ ∀ n ∈ p.outstanding.values, 0 < n) ∧
      p.outstandingOf a + takenOff a empty ops = 2 ∧ p.outstanding.get? a = none ∧
      (p.step? (.complete ⟨a, 2⟩ [])).map Prod.snd = some (.truth true, [.publish a []]) := by
  intro a b ops p
  obtain ⟨hpos, hresult, haccount, _⟩ := never_overdrawn ops
  refine ⟨⟨by decide, hpos⟩, haccount a, by decide, ?_⟩
  rw [hresult (.complete ⟨a, 2⟩ [])]
  decide

end LintServer.Publisher
