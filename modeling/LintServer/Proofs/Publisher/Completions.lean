import LintServer.Proofs.Publisher.Mirror
import Mathlib.Data.List.MinMax

/-!
# The order of completions

Runs come to their end in any order. What a publisher has come to when the tickets of some runs are
back depends on these tickets and on what became of their runs, but not on the order: of every
document the newest run with findings counts that was not too old at the start.

* `ending`: the operation that brings a ticket back;
* `contenders`, `newest?`: the runs whose findings may count, and the one whose findings do;
* `Completed`, `completed_run`: the state after any order, told without the order;
* **`completions_in_any_order`**: two orders come to the same.
-/

namespace LintServer.Publisher

variable {p q : Publisher} {t t' : Ticket} {u : Uri} {out ts ts' : List Ticket}
  {outcome : Ticket → Option (List Finding)}

/-- The operation that brings a ticket back: its run has findings, or has come to nothing. -/
def ending (outcome : Ticket → Option (List Finding)) (t : Ticket) : Operation :=
  match outcome t with
  | some findings => .complete t findings
  | none => .abandon t

/-- The runs on a document that have findings and are not too old by now. -/
def contenders (p : Publisher) (outcome : Ticket → Option (List Finding)) (u : Uri)
    (ts : List Ticket) : List Ticket :=
  ts.filter fun t => t.uri = u ∧ (outcome t).isSome ∧ p.isStale t = false

/-- The newest of them. -/
def newest? (p : Publisher) (outcome : Ticket → Option (List Finding)) (u : Uri)
    (ts : List Ticket) : Option Ticket :=
  (p.contenders outcome u ts).argmax Ticket.number

theorem mem_contenders_iff :
    t ∈ p.contenders outcome u ts ↔
      t ∈ ts ∧ t.uri = u ∧ (outcome t).isSome ∧ p.isStale t = false := by
  simp [contenders]

theorem contenders_concat (p : Publisher) (outcome : Ticket → Option (List Finding)) (u : Uri)
    (ts : List Ticket) (t : Ticket) :
    p.contenders outcome u (ts ++ [t]) = p.contenders outcome u ts ++
      if t.uri = u ∧ (outcome t).isSome ∧ p.isStale t = false then [t] else [] := by
  rw [contenders, List.filter_append, List.filter_singleton, Bool.cond_decide]
  rfl

theorem newest?_concat_of_not (h : ¬ (t.uri = u ∧ (outcome t).isSome ∧ p.isStale t = false)) :
    p.newest? outcome u (ts ++ [t]) = p.newest? outcome u ts := by
  rw [newest?, contenders_concat, if_neg h, List.append_nil, newest?]

theorem newest?_concat (h : t.uri = u ∧ (outcome t).isSome ∧ p.isStale t = false) :
    p.newest? outcome u (ts ++ [t]) = match p.newest? outcome u ts with
      | none => some t
      | some n => if n.number < t.number then some t else some n := by
  rw [newest?, contenders_concat, if_pos h, List.argmax_concat, newest?]
  cases (p.contenders outcome u ts).argmax Ticket.number <;> rfl

theorem newest?_perm (hnum : (ts.map Ticket.number).Nodup) (hperm : ts.Perm ts') (u : Uri) :
    p.newest? outcome u ts = p.newest? outcome u ts' := by
  have hmem : ∀ t, t ∈ p.contenders outcome u ts ↔ t ∈ p.contenders outcome u ts' := fun t =>
    (hperm.filter _).mem_iff
  cases h : p.newest? outcome u ts with
  | none =>
    have hnil := List.argmax_eq_none.1 h
    have hnil' : p.contenders outcome u ts' = [] :=
      List.eq_nil_iff_forall_not_mem.2 fun t ht =>
        List.not_mem_nil (hnil ▸ (hmem t).2 ht)
    exact (List.argmax_eq_none.2 hnil').symm
  | some n =>
    have hn := List.argmax_mem h
    cases h' : p.newest? outcome u ts' with
    | none =>
      have hnil := List.argmax_eq_none.1 h'
      exact absurd (hnil ▸ (hmem n).1 hn) List.not_mem_nil
    | some n' =>
      have hn' := List.argmax_mem h'
      have hle := List.le_of_mem_argmax ((hmem n').2 hn') h
      have hle' := List.le_of_mem_argmax ((hmem n).1 hn) h'
      refine congrArg some (List.inj_on_of_nodup_map hnum (mem_contenders_iff.1 hn).1 ?_
        (Nat.le_antisymm hle' hle))
      exact hperm.mem_iff.2 (mem_contenders_iff.1 hn').1

/-! ## The state after some completions -/

/-- What a publisher has come to when some tickets are back, told without their order. -/
structure Completed (p : Publisher) (outcome : Ticket → Option (List Finding)) (out ts : List Ticket)
    (q : Publisher) : Prop where
  issued : q.issued = p.issued
  balanced : q.Balanced (out.filter (· ∉ ts))
  issues : ∀ u, q.issues? u = match p.newest? outcome u ts with
    | some t => (outcome t).map (List.map Issue.ofFinding)
    | none => p.issues? u
  /-- The watermark is that of the newest run, as long as a ticket of the document is out. -/
  staleUpTo : ∀ t ∈ out, t ∉ ts → q.staleUpTo.get? t.uri = match p.newest? outcome t.uri ts with
    | some n => some n.number
    | none => p.staleUpTo.get? t.uri

namespace Completed

theorem start (h : p.Balanced out) : Completed p outcome out [] p where
  issued := rfl
  balanced := by simpa using h
  issues _ := rfl
  staleUpTo _ _ _ := rfl

theorem mem_out (ht : t ∈ out) (hts : t ∉ ts) : t ∈ out.filter (· ∉ ts) :=
  List.mem_filter.2 ⟨ht, decide_eq_true hts⟩

theorem out_concat (hout : out.Nodup) (ts : List Ticket) (t : Ticket) :
    (out.filter (· ∉ ts)).erase t = out.filter (· ∉ ts ++ [t]) := by
  rw [(hout.filter _).erase_eq_filter, List.filter_filter]
  refine List.filter_congr fun a _ => ?_
  by_cases h : a = t <;> simp [h]

theorem isStale_iff (h : Completed p outcome out ts q) (ht : t ∈ out) (hts : t ∉ ts) :
    q.isStale t = true ↔
      p.isStale t = true ∨ ∃ n ∈ p.newest? outcome t.uri ts, t.number ≤ n.number := by
  rw [Publisher.isStale_iff, h.staleUpTo t ht hts]
  cases hn : p.newest? outcome t.uri ts with
  | none => simp [Publisher.isStale_iff]
  | some n =>
    have hfresh := (mem_contenders_iff.1 (List.argmax_mem hn)).2
    -- What was too old at the start is older than the newest run, which was not.
    have hold : p.isStale t = true → t.number ≤ n.number := by
      intro hs
      obtain ⟨m, hm, hle⟩ := Publisher.isStale_iff.1 hs
      by_contra hlt
      have : p.isStale n = true :=
        Publisher.isStale_iff.2 ⟨m, by rw [hfresh.1]; exact hm, by omega⟩
      rw [hfresh.2.2] at this
      cases this
    simp only [Option.some.injEq, exists_eq_left', Option.mem_def]
    exact ⟨Or.inr, fun hor => hor.elim hold id⟩

theorem retire (h : Completed p outcome out ts q) (hout : out.Nodup) (ht : t ∈ out) (hts : t ∉ ts)
    (hnew : ∀ u, p.newest? outcome u (ts ++ [t]) = p.newest? outcome u ts) :
    Completed p outcome out (ts ++ [t]) (q.retire t.uri) where
  issued := by rw [retire_issued, h.issued]
  balanced := out_concat hout ts t ▸ h.balanced.retire (mem_out ht hts)
  issues u := by rw [issues?_retire, h.issues, hnew]
  staleUpTo t' ht' hts' := by
    rw [List.mem_append, List.mem_singleton, not_or] at hts'
    rw [h.balanced.staleUpTo_retire_of_out (mem_out ht hts) (mem_out ht' hts'.1) hts'.2,
      h.staleUpTo t' ht' hts'.1, hnew]

theorem accept (h : Completed p outcome out ts q) (hout : out.Nodup) (ht : t ∈ out) (hts : t ∉ ts)
    {findings : List Finding} (hfind : outcome t = some findings)
    (hnew : p.newest? outcome t.uri (ts ++ [t]) = some t) :
    Completed p outcome out (ts ++ [t]) ((q.accept t findings).retire t.uri) where
  issued := by rw [retire_issued, ← h.issued]; rfl
  balanced := out_concat hout ts t ▸
    (h.balanced.accept (mem_out ht hts) findings).retire (mem_out ht hts)
  issues u := by
    rw [issues?_retire, issues?_accept]
    by_cases hu : u = t.uri
    · rw [if_pos hu, hu, hnew]
      exact (congrArg (Option.map (List.map Issue.ofFinding)) hfind).symm
    · rw [if_neg hu, h.issues, newest?_concat_of_not fun hand => hu hand.1.symm]
  staleUpTo t' ht' hts' := by
    rw [List.mem_append, List.mem_singleton, not_or] at hts'
    rw [(h.balanced.accept (mem_out ht hts) findings).staleUpTo_retire_of_out (mem_out ht hts)
      (mem_out ht' hts'.1) hts'.2]
    simp only [Publisher.accept, Table.get?_insert]
    by_cases hu : t'.uri = t.uri
    · rw [if_pos hu, hu, hnew]
    · rw [if_neg hu, h.staleUpTo t' ht' hts'.1,
        newest?_concat_of_not fun hand => hu hand.1.symm]

/-- **One more ticket comes back.** -/
theorem step (h : Completed p outcome out ts q) (hout : out.Nodup) (ht : t ∈ out) (hts : t ∉ ts) :
    Completed p outcome out (ts ++ [t]) (q.step (ending outcome t)).1 := by
  cases hfind : outcome t with
  | none =>
    rw [ending, hfind]
    exact h.retire hout ht hts fun u => newest?_concat_of_not (by simp [hfind])
  | some findings =>
    rw [ending, hfind]
    change Completed p outcome out (ts ++ [t]) (q.complete t findings).1
    have hstale := h.isStale_iff ht hts
    cases hs : q.isStale t with
    | true =>
      rw [complete_of_stale hs]
      refine h.retire hout ht hts fun u => ?_
      rcases hstale.1 hs with hold | ⟨n, hn, hle⟩
      · exact newest?_concat_of_not (by simp [hold])
      · by_cases hcont : t.uri = u ∧ (outcome t).isSome ∧ p.isStale t = false
        · rw [newest?_concat hcont, ← hcont.1, hn]
          exact if_neg (Nat.not_lt.2 hle)
        · exact newest?_concat_of_not hcont
    | false =>
      rw [complete_of_fresh hs]
      have hnot := mt hstale.2 (Bool.eq_false_iff.1 hs)
      refine h.accept hout ht hts hfind ?_
      rw [newest?_concat ⟨rfl, by simp [hfind], Bool.eq_false_iff.2 fun hold => hnot (.inl hold)⟩]
      cases hn : p.newest? outcome t.uri ts with
      | none => rfl
      | some n => exact if_pos (Nat.not_le.1 fun hle => hnot (.inr ⟨n, hn, hle⟩))

end Completed

/-- **The state after any order**, by the tickets that have come back. -/
theorem completed_run (h : p.Balanced out) (hout : ∀ t ∈ ts, t ∈ out) (hnd : ts.Nodup) :
    Completed p outcome out ts (p.run (ts.map (ending outcome))) := by
  induction ts using List.reverseRecOn with
  | nil => exact .start h
  | append_singleton ts t ih =>
    obtain ⟨hts, _, hdisj⟩ := List.nodup_append.1 hnd
    rw [List.map_append, List.map_singleton, run_concat]
    refine (ih (fun t' ht' => hout t' (List.mem_append_left _ ht')) hts).step h.nodup
      (hout t (List.mem_append_right _ List.mem_cons_self)) fun ht => ?_
    exact hdisj t ht t List.mem_cons_self rfl

/-! ## Two orders -/

/-- Two publishers show the same issues and do the same with every ticket. Tables may hold their
entries in different orders. -/
structure Agrees (p q : Publisher) : Prop where
  issued : p.issued = q.issued
  issues : ∀ u, p.issues? u = q.issues? u
  outstanding : ∀ u, p.outstanding.get? u = q.outstanding.get? u
  staleUpTo : ∀ u, p.staleUpTo.get? u = q.staleUpTo.get? u

theorem Completed.agrees {q' : Publisher} (h : Completed p outcome out ts q)
    (h' : Completed p outcome out ts' q') (hperm : ts.Perm ts')
    (hnum : (ts.map Ticket.number).Nodup) : q.Agrees q' := by
  have hmem : out.filter (· ∉ ts) = out.filter (· ∉ ts') :=
    List.filter_congr fun t _ => by simp only [hperm.mem_iff]
  have hnew : ∀ u, p.newest? outcome u ts = p.newest? outcome u ts' := newest?_perm hnum hperm
  have houtstanding : ∀ u, q.outstanding.get? u = q'.outstanding.get? u := fun u => by
    rw [h.balanced.outstanding_eq, h'.balanced.outstanding_eq, hmem]
  refine ⟨h.issued.trans h'.issued.symm, fun u => by rw [h.issues, h'.issues, hnew], houtstanding,
    fun u => ?_⟩
  cases hu : q.outstanding.get? u with
  | none => rw [h.balanced.pruned u hu, h'.balanced.pruned u (houtstanding u ▸ hu)]
  | some n =>
    obtain ⟨t, ht, rfl⟩ := (h.balanced.contains_iff u).1 ((Table.contains_iff _ _).2 ⟨n, hu⟩)
    obtain ⟨hout, hts⟩ := List.mem_filter.1 ht
    have hts := of_decide_eq_true hts
    rw [h.staleUpTo t hout hts, h'.staleUpTo t hout (mt hperm.mem_iff.2 hts), hnew]

/-- **Runs may come to their end in any order.** The issues of a document are those of the newest
run with findings that was not too old at the start; without one they stay. -/
theorem completions_in_any_order {ops : List Operation} (hops : Honest ops)
    (hout : ∀ t ∈ ts, t ∈ outIn (empty.record ops)) (hnd : ts.Nodup) (hperm : ts.Perm ts')
    (outcome : Ticket → Option (List Finding)) :
    let p := empty.run ops
    (p.run (ts.map (ending outcome))).Agrees (p.run (ts'.map (ending outcome))) ∧
      ∀ u, (p.run (ts.map (ending outcome))).issues? u = match p.newest? outcome u ts with
        | some t => (outcome t).map (List.map Issue.ofFinding)
        | none => p.issues? u := by
  intro p
  have hb := hops.kept.balanced
  have hnum : (ts.map Ticket.number).Nodup :=
    hnd.map_on fun t ht t' ht' e => hb.eq_of_number (hout t ht) (hout t' ht') e
  have h : Completed p outcome _ ts _ := completed_run hb hout hnd
  have h' : Completed p outcome _ ts' _ :=
    completed_run hb (fun t ht => hout t (hperm.mem_iff.2 ht)) (hperm.nodup_iff.1 hnd)
  exact ⟨h.agrees h' hperm hnum, h.issues⟩

/-- Two runs on one document end in the wrong order, a third one finds nothing, and a document is
removed under its run. -/
theorem newest_completion_counts :
    let a : Uri := ⟨"a"⟩
    let b : Uri := ⟨"b"⟩
    let f : Finding := ⟨1, 1, "x", "y"⟩
    let ops : List Operation := [.begin a, .begin b, .retract b, .begin a, .begin a]
    let ts : List Ticket := [⟨a, 3⟩, ⟨b, 2⟩, ⟨a, 4⟩, ⟨a, 1⟩]
    let ts' : List Ticket := [⟨a, 1⟩, ⟨a, 4⟩, ⟨a, 3⟩, ⟨b, 2⟩]
    let outcome : Ticket → Option (List Finding) := fun t =>
      if t.number = 4 then none else if t.number = 3 then some [f] else some []
    Honest ops ∧ (∀ t ∈ ts, t ∈ outIn (empty.record ops)) ∧ ts.Nodup ∧ ts.Perm ts' ∧
      ((empty.run ops).run (ts.map (ending outcome))).Agrees
        ((empty.run ops).run (ts'.map (ending outcome))) ∧
      ((empty.run ops).run (ts.map (ending outcome))).issues? a = some [Issue.ofFinding f] ∧
      ((empty.run ops).run (ts.map (ending outcome))).issues? b = none := by
  intro a b f ops ts ts' outcome
  have hops : Honest ops := by decide
  have hout : ∀ t ∈ ts, t ∈ outIn (empty.record ops) := by decide
  have hnd : ts.Nodup := by decide
  have hperm : ts.Perm ts' := by decide
  obtain ⟨hagrees, hissues⟩ := completions_in_any_order hops hout hnd hperm outcome
  exact ⟨hops, hout, hnd, hperm, hagrees, (hissues a).trans rfl, (hissues b).trans rfl⟩

end LintServer.Publisher
