import LintServer.Publisher
import Mathlib.Data.List.Nodup
import Mathlib.Data.List.Perm.Basic

/-!
# The bookkeeping of tickets

A publisher keeps no list of the tickets that are out, only how many there are of each document and
up to which number they are stale. `Balanced p out` says that this bookkeeping fits a list of
tickets, and the lemmas say which tickets are stale after an operation.

* `Positive`, `outstandingOf_begin`, `outstandingOf_retire`: the counts;
* **`Balanced`**: the bookkeeping fits the tickets that are out;
* `Balanced.begin`, `retire`, `complete`, `invalidate`: it still does after an operation;
* `Balanced.isStale_new`, `isStale_retire`, **`isStale_complete`**, `isStale_invalidate`: what an
  operation does to the tickets that stay out.
-/

namespace LintServer.Publisher

variable {p q : Publisher} {t t' : Ticket} {u v : Uri} {out : List Ticket}

/-! ## Fields that an operation leaves alone -/

@[simp] theorem retire_tracked (p : Publisher) (u : Uri) : (p.retire u).tracked = p.tracked := by
  unfold retire
  repeat' split
  all_goals rfl

@[simp] theorem retire_issued (p : Publisher) (u : Uri) : (p.retire u).issued = p.issued := by
  unfold retire
  repeat' split
  all_goals rfl

@[simp] theorem invalidate_tracked (p : Publisher) (u : Uri) :
    (p.invalidate u).tracked = p.tracked := by
  unfold invalidate
  split <;> rfl

@[simp] theorem invalidate_issued (p : Publisher) (u : Uri) :
    (p.invalidate u).issued = p.issued := by
  unfold invalidate
  split <;> rfl

@[simp] theorem invalidate_outstanding (p : Publisher) (u : Uri) :
    (p.invalidate u).outstanding = p.outstanding := by
  unfold invalidate
  split <;> rfl

theorem retire_of_none (h : p.outstanding.get? u = none) : p.retire u = p := by
  unfold retire
  rw [h]

theorem outstanding_retire_congr (h : q.outstanding = p.outstanding) (u : Uri) :
    (q.retire u).outstanding = (p.retire u).outstanding := by
  unfold retire
  rw [h]
  cases p.outstanding.get? u with
  | none => exact h
  | some n =>
    dsimp only
    split_ifs <;> rfl

theorem outstanding_retire {n : Nat} (hn : p.outstanding.get? u = some n) (v : Uri) :
    (p.retire u).outstanding.get? v =
      if v = u then (if n ≤ 1 then none else some (n - 1)) else p.outstanding.get? v := by
  simp only [retire, hn]
  by_cases h1 : n ≤ 1
  · rw [if_pos h1, if_pos h1, Table.get?_erase]
  · rw [if_neg h1, if_neg h1, Table.get?_insert]

theorem staleUpTo_retire {n : Nat} (hn : p.outstanding.get? u = some n) (v : Uri) :
    (p.retire u).staleUpTo.get? v = if v = u ∧ n ≤ 1 then none else p.staleUpTo.get? v := by
  simp only [retire, hn]
  by_cases h1 : n ≤ 1
  · simp only [h1, if_true, and_true, Table.get?_erase]
  · simp only [h1, if_false, and_false]

/-! ## Staleness -/

theorem isStale_iff : p.isStale t = true ↔ ∃ n, p.staleUpTo.get? t.uri = some n ∧ t.number ≤ n := by
  unfold isStale
  cases p.staleUpTo.get? t.uri <;> simp

theorem isStale_congr {q : Publisher} (h : q.staleUpTo.get? t.uri = p.staleUpTo.get? t.uri) :
    q.isStale t = p.isStale t := by
  unfold isStale
  rw [h]

/-! ## Counts -/

theorem outstandingOf_congr (h : q.outstanding = p.outstanding) (u : Uri) :
    q.outstandingOf u = p.outstandingOf u := by
  unfold outstandingOf
  rw [h]

theorem outstandingOf_begin (p : Publisher) (u v : Uri) :
    (p.begin u).1.outstandingOf v = p.outstandingOf v + if u = v then 1 else 0 := by
  simp only [outstandingOf, begin, Table.get?_insert]
  by_cases hv : v = u
  · rw [if_pos hv, if_pos hv.symm, hv, Option.getD_some]
  · rw [if_neg hv, if_neg (Ne.symm hv), Nat.add_zero]

theorem outstandingOf_retire (p : Publisher) (u v : Uri) :
    (p.retire u).outstandingOf v = p.outstandingOf v - if u = v then 1 else 0 := by
  cases hu : p.outstanding.get? u with
  | none =>
    rw [retire_of_none hu]
    by_cases hv : u = v
    · rw [← hv, outstandingOf, hu, Option.getD_none, Nat.zero_sub]
    · rw [if_neg hv, Nat.sub_zero]
  | some n =>
    rw [outstandingOf, outstanding_retire hu, outstandingOf]
    by_cases hv : u = v
    · rw [if_pos hv.symm, if_pos hv, ← hv, hu, Option.getD_some]
      split_ifs
      · rw [Option.getD_none]
        omega
      · rw [Option.getD_some]
    · rw [if_neg (Ne.symm hv), if_neg hv, Nat.sub_zero]

/-- Every entry counts one ticket at least. -/
def Positive (p : Publisher) : Prop := ∀ u n, p.outstanding.get? u = some n → 0 < n

namespace Positive

theorem congr (h : p.Positive) (hq : q.outstanding = p.outstanding) : q.Positive := by
  unfold Positive
  rw [hq]
  exact h

theorem contains_iff (h : p.Positive) (u : Uri) :
    p.outstanding.contains u = true ↔ 0 < p.outstandingOf u := by
  rw [Table.contains, outstandingOf]
  cases hu : p.outstanding.get? u with
  | none => simp
  | some n => simpa using h u n hu

theorem begin (h : p.Positive) (u : Uri) : (p.begin u).1.Positive := by
  intro v n hn
  simp only [Publisher.begin, Table.get?_insert] at hn
  split_ifs at hn
  · cases hn
    omega
  · exact h v n hn

theorem retire (h : p.Positive) (u : Uri) : (p.retire u).Positive := by
  cases hu : p.outstanding.get? u with
  | none => rwa [retire_of_none hu]
  | some m =>
    intro v n hn
    rw [outstanding_retire hu] at hn
    split_ifs at hn
    · cases hn
      omega
    · exact h v n hn

end Positive

/-! ## The bookkeeping and the tickets -/

/-- **The bookkeeping fits the tickets that are out.** -/
structure Balanced (p : Publisher) (out : List Ticket) : Prop where
  distinct : (out.map Ticket.number).Nodup
  number_le : ∀ t ∈ out, t.number ≤ p.issued
  counted : ∀ u, p.outstandingOf u = out.countP (·.uri = u)
  positive : ∀ u n, p.outstanding.get? u = some n → 0 < n
  stale_le : ∀ u n, p.staleUpTo.get? u = some n → n ≤ p.issued
  /-- No ticket is out, none can be stale. -/
  pruned : ∀ u, p.outstanding.get? u = none → p.staleUpTo.get? u = none

theorem balanced_empty : empty.Balanced [] where
  distinct := List.nodup_nil
  number_le := by simp
  counted u := rfl
  positive u n h := by cases h
  stale_le u n h := by cases h
  pruned u _ := rfl

namespace Balanced

theorem perm {out' : List Ticket} (h : p.Balanced out) (hp : out.Perm out') : p.Balanced out' where
  distinct := (hp.map _).nodup_iff.1 h.distinct
  number_le t ht := h.number_le t (hp.mem_iff.2 ht)
  counted u := by rw [h.counted, hp.countP_eq]
  positive := h.positive
  stale_le := h.stale_le
  pruned := h.pruned

theorem nodup (h : p.Balanced out) : out.Nodup := List.Nodup.of_map _ h.distinct

theorem eq_of_number (h : p.Balanced out) (ht : t ∈ out) (ht' : t' ∈ out)
    (hn : t.number = t'.number) : t = t' :=
  List.inj_on_of_nodup_map h.distinct ht ht' hn

theorem contains_iff (h : p.Balanced out) (u : Uri) :
    p.outstanding.contains u = true ↔ ∃ t ∈ out, t.uri = u := by
  have hpos : (∃ t ∈ out, t.uri = u) ↔ 0 < out.countP (·.uri = u) := by
    simp [List.countP_pos_iff]
  rw [hpos, ← h.counted u]
  exact Positive.contains_iff h.positive u

theorem exists_count (h : p.Balanced out) (ht : t ∈ out) :
    ∃ n, p.outstanding.get? t.uri = some n ∧ n = out.countP (·.uri = t.uri) := by
  have hc := h.counted t.uri
  obtain ⟨n, hn⟩ := Option.isSome_iff_exists.1 ((h.contains_iff t.uri).2 ⟨t, ht, rfl⟩)
  refine ⟨n, hn, ?_⟩
  rw [← hc, outstandingOf, hn, Option.getD]

theorem outstanding_eq (h : p.Balanced out) (u : Uri) : p.outstanding.get? u =
    if out.countP (·.uri = u) = 0 then none else some (out.countP (·.uri = u)) := by
  rw [← h.counted u, outstandingOf]
  cases hg : p.outstanding.get? u with
  | none => rfl
  | some n => exact (if_neg (Nat.ne_of_gt (h.positive u n hg))).symm

theorem mark {n : Nat} (h : p.Balanced out) (ht : t ∈ out) (hn : n ≤ p.issued) :
    { p with staleUpTo := p.staleUpTo.insert t.uri n }.Balanced out where
  distinct := h.distinct
  number_le := h.number_le
  counted := h.counted
  positive := h.positive
  stale_le u m hm := by
    rw [Table.get?_insert] at hm
    split_ifs at hm
    · cases hm
      exact hn
    · exact h.stale_le u m hm
  pruned u hu := by
    have hne : u ≠ t.uri := by
      rintro rfl
      obtain ⟨n, hn, _⟩ := h.exists_count ht
      rw [hn] at hu
      cases hu
    rw [Table.get?_insert, if_neg hne, h.pruned u hu]

theorem track (h : p.Balanced out) (b : Board) : { p with tracked := b }.Balanced out :=
  ⟨h.distinct, h.number_le, h.counted, h.positive, h.stale_le, h.pruned⟩

/-! ### Operations -/

theorem begin (h : p.Balanced out) (u : Uri) :
    (p.begin u).1.Balanced ((p.begin u).2 :: out) where
  distinct := by
    refine List.nodup_cons.2 ⟨fun hm => ?_, h.distinct⟩
    obtain ⟨t, ht, hn⟩ := List.mem_map.1 hm
    have := h.number_le t ht
    simp only [Publisher.begin] at hn
    omega
  number_le t ht := by
    rcases List.mem_cons.1 ht with rfl | ht
    · exact Nat.le_refl _
    · exact Nat.le_succ_of_le (h.number_le t ht)
  counted v := by
    rw [outstandingOf_begin, h.counted v, List.countP_cons]
    by_cases e : u = v <;> simp [Publisher.begin, e]
  positive := Positive.begin h.positive u
  stale_le v n hn := Nat.le_succ_of_le (h.stale_le v n hn)
  pruned v hv := by
    simp only [Publisher.begin, Table.get?_insert] at hv
    split_ifs at hv
    exact h.pruned v hv

/-- A new ticket is not stale; for the others nothing changes. -/
theorem isStale_new (h : p.Balanced out) (u : Uri) : p.isStale (p.begin u).2 = false := by
  refine Bool.eq_false_iff.2 fun hs => ?_
  obtain ⟨n, hn, hle⟩ := isStale_iff.1 hs
  have := h.stale_le _ n hn
  simp only [Publisher.begin] at hle
  omega

theorem retire (h : p.Balanced out) (ht : t ∈ out) :
    (p.retire t.uri).Balanced (out.erase t) := by
  obtain ⟨n, hn, _⟩ := h.exists_count ht
  refine ⟨(h.distinct.sublist ((List.erase_sublist).map _)), fun t' ht' => ?_, fun u => ?_,
    Positive.retire h.positive t.uri, fun u m hm => ?_, fun u hu => ?_⟩
  · rw [retire_issued]
    exact h.number_le t' (List.mem_of_mem_erase ht')
  · rw [outstandingOf_retire, h.counted u, (List.perm_cons_erase ht).countP_eq, List.countP_cons]
    simp
  · rw [retire_issued]
    rw [staleUpTo_retire hn] at hm
    split_ifs at hm
    exact h.stale_le u m hm
  · rw [outstanding_retire hn] at hu
    rw [staleUpTo_retire hn]
    by_cases e : u = t.uri
    · rw [if_pos e] at hu
      split_ifs at hu with h1
      exact if_pos ⟨e, h1⟩
    · rw [if_neg e] at hu
      rw [if_neg fun he => e he.1, h.pruned u hu]

theorem staleUpTo_retire_of_out (h : p.Balanced out) (ht : t ∈ out) (ht' : t' ∈ out)
    (hne : t' ≠ t) : (p.retire t.uri).staleUpTo.get? t'.uri = p.staleUpTo.get? t'.uri := by
  obtain ⟨n, hn, hcount⟩ := h.exists_count ht
  rw [Publisher.staleUpTo_retire hn, if_neg]
  rintro ⟨hu, h1⟩
  have hmem : t' ∈ out.erase t := (List.mem_erase_of_ne hne).2 ht'
  have hpos : 0 < (out.erase t).countP (·.uri = t.uri) :=
    List.countP_pos_iff.2 ⟨t', hmem, decide_eq_true hu⟩
  rw [(List.perm_cons_erase ht).countP_eq, List.countP_cons] at hcount
  simp only [decide_true, if_true] at hcount
  omega

/-- A ticket that comes back changes nothing for the tickets that stay out. -/
theorem isStale_retire (h : p.Balanced out) (ht : t ∈ out) (ht' : t' ∈ out) (hne : t' ≠ t) :
    (p.retire t.uri).isStale t' = p.isStale t' :=
  isStale_congr (h.staleUpTo_retire_of_out ht ht' hne)

theorem invalidate (h : p.Balanced out) (u : Uri) : (p.invalidate u).Balanced out := by
  unfold Publisher.invalidate
  split_ifs with hc
  · obtain ⟨t, ht, rfl⟩ := (h.contains_iff u).1 hc
    exact h.mark ht (Nat.le_refl _)
  · exact h

/-- All tickets of the document become stale and no other one. -/
theorem isStale_invalidate (h : p.Balanced out) (u : Uri) (ht : t ∈ out) :
    (p.invalidate u).isStale t = (p.isStale t || decide (t.uri = u)) := by
  unfold Publisher.invalidate
  by_cases hu : t.uri = u
  · rw [if_pos ((h.contains_iff u).2 ⟨t, ht, hu⟩)]
    have hs : { p with staleUpTo := p.staleUpTo.insert u p.issued }.isStale t = true :=
      isStale_iff.2 ⟨p.issued, by rw [Table.get?_insert, if_pos hu], h.number_le t ht⟩
    rw [hs]
    simp [hu]
  · rw [decide_eq_false hu, Bool.or_false]
    split_ifs
    · exact isStale_congr (by rw [Table.get?_insert, if_neg hu])
    · rfl

end Balanced

/-! ## Runs that end -/

/-- A publisher that has taken note of the findings of a run. -/
def accept (p : Publisher) (t : Ticket) (findings : List Finding) : Publisher :=
  { p with
    staleUpTo := p.staleUpTo.insert t.uri t.number
    tracked := p.tracked.insert t.uri (findings.map Issue.ofFinding) }

theorem complete_of_stale (hs : p.isStale t = true) (findings : List Finding) :
    p.complete t findings = (p.retire t.uri, false, []) := by
  rw [Publisher.complete, if_pos hs]

theorem complete_of_fresh (hs : p.isStale t = false) (findings : List Finding) :
    p.complete t findings = ((p.accept t findings).retire t.uri, true,
      [.publish t.uri (findings.map Issue.ofFinding)]) := by
  rw [Publisher.complete, if_neg (Bool.eq_false_iff.1 hs)]
  rfl

theorem outstanding_complete (p : Publisher) (t : Ticket) (findings : List Finding) :
    (p.complete t findings).1.outstanding = (p.retire t.uri).outstanding := by
  cases hs : p.isStale t with
  | true => rw [complete_of_stale hs]
  | false =>
    have hsame : (p.accept t findings).outstanding = p.outstanding := rfl
    rw [complete_of_fresh hs]
    exact outstanding_retire_congr hsame t.uri

namespace Balanced

theorem accept (h : p.Balanced out) (ht : t ∈ out) (findings : List Finding) :
    (p.accept t findings).Balanced out :=
  (h.mark ht (h.number_le t ht)).track _

theorem complete (h : p.Balanced out) (ht : t ∈ out) (findings : List Finding) :
    (p.complete t findings).1.Balanced (out.erase t) := by
  cases hs : p.isStale t with
  | true => rw [complete_of_stale hs]; exact h.retire ht
  | false => rw [complete_of_fresh hs]; exact (h.accept ht findings).retire ht

/-- **A run that is applied makes all older tickets of its document stale.** One that is not changes
nothing. -/
theorem isStale_complete (h : p.Balanced out) (ht : t ∈ out) (ht' : t' ∈ out) (hne : t' ≠ t)
    (findings : List Finding) :
    (p.complete t findings).1.isStale t' =
      (p.isStale t' || (!p.isStale t && decide (t'.uri = t.uri ∧ t'.number < t.number))) := by
  cases hs : p.isStale t with
  | true =>
    rw [complete_of_stale hs, h.isStale_retire ht ht' hne]
    simp
  | false =>
    rw [complete_of_fresh hs, (h.accept ht findings).isStale_retire ht ht' hne]
    by_cases hu : t'.uri = t.uri
    · have hnum : t'.number ≠ t.number := fun e => hne (h.eq_of_number ht' ht e)
      have hold : p.isStale t' = true → t'.number < t.number := by
        intro hs'
        obtain ⟨n, hn, hle⟩ := isStale_iff.1 hs'
        by_contra hge
        have hst : p.isStale t = true := isStale_iff.2 ⟨n, hu ▸ hn, by omega⟩
        rw [hs] at hst
        cases hst
      have hnew : (p.accept t findings).isStale t' = true ↔ t'.number < t.number := by
        rw [isStale_iff]
        simp only [Publisher.accept, Table.get?_insert, if_pos hu, Option.some.injEq,
          exists_eq_left']
        omega
      rw [Bool.eq_iff_iff, hnew]
      simp only [hu, Bool.or_eq_true, Bool.not_false, Bool.true_and, true_and, decide_eq_true_eq]
      exact ⟨Or.inr, fun hor => hor.elim hold id⟩
    · rw [decide_eq_false fun hand => hu hand.1, Bool.and_false, Bool.or_false]
      exact isStale_congr (by simp only [Publisher.accept, Table.get?_insert, if_neg hu])

theorem publish (h : p.Balanced out) (u : Uri) (findings : List Finding) :
    (p.publish u findings).1.Balanced out :=
  (h.invalidate u).track _

theorem retract (h : p.Balanced out) (u : Uri) : (p.retract u).1.Balanced out :=
  (h.invalidate u).track _

theorem isStale_publish (h : p.Balanced out) (u : Uri) (findings : List Finding) (ht : t ∈ out) :
    (p.publish u findings).1.isStale t = (p.isStale t || decide (t.uri = u)) :=
  h.isStale_invalidate u ht

theorem isStale_retract (h : p.Balanced out) (u : Uri) (ht : t ∈ out) :
    (p.retract u).1.isStale t = (p.isStale t || decide (t.uri = u)) :=
  h.isStale_invalidate u ht

end Balanced

end LintServer.Publisher
