import LintServer.Proofs.Publisher.Record
import Mathlib.Data.List.TakeWhile

/-!
# The law of staleness

A publisher decides from one number for each document and from the count of its tickets whether a
run is too old, and it forgets both when no ticket of the document is out. The law speaks of the
whole record instead: a run is applied exactly when nothing in the record since its ticket was
issued has outdated it.

* `Entry.Outdates`: an entry that makes an older ticket worthless;
* `sinceIssue`: the record since a ticket was issued;
* `Honest.isStale_iff`: the invariant;
* **`applied_iff_not_outdated`**: the law, and what the removal of a document answers.
-/

namespace LintServer.Publisher

variable {p : Publisher} {h : List Entry} {x : Entry} {t t' : Ticket} {ops : List Operation}
  {o : Operation}

/-- An entry outdates a ticket: the issues of its document are replaced or removed, or a later run
of the document is applied. -/
def Entry.Outdates (x : Entry) (t : Ticket) : Prop :=
  match x.operation with
  | .publish u _ => t.uri = u
  | .retract u => t.uri = u
  | .complete t' _ => x.answer = .truth true ∧ t.uri = t'.uri ∧ t.number < t'.number
  | _ => False

instance (x : Entry) (t : Ticket) : Decidable (x.Outdates t) := by
  unfold Entry.Outdates
  split <;> infer_instance

/-- The record since a ticket was issued. -/
def sinceIssue (t : Ticket) (h : List Entry) : List Entry :=
  (h.dropWhile fun x => x.answer ≠ .ticket t).tail

/-- Something has outdated a ticket since it was issued. -/
def Outdated (t : Ticket) (h : List Entry) : Prop := ∃ x ∈ sinceIssue t h, x.Outdates t

instance (t : Ticket) (h : List Entry) : Decidable (Outdated t h) := by
  unfold Outdated
  infer_instance

/-! ## The record grows -/

theorem exists_entry_of_issued (ht : t ∈ issuedIn h) : ∃ x ∈ h, x.answer = .ticket t := by
  obtain ⟨x, hx, ha⟩ := List.mem_filterMap.1 ht
  refine ⟨x, hx, ?_⟩
  cases hans : x.answer with
  | ticket t' =>
    rw [hans] at ha
    cases ha
    rfl
  | truth b => rw [hans] at ha; cases ha
  | done => rw [hans] at ha; cases ha

theorem sinceIssue_concat (ht : t ∈ issuedIn h) (x : Entry) :
    sinceIssue t (h ++ [x]) = sinceIssue t h ++ [x] := by
  obtain ⟨y, hy, ha⟩ := exists_entry_of_issued ht
  have hne : h.dropWhile (fun x => x.answer ≠ .ticket t) ≠ [] := by
    intro hnil
    have := List.dropWhile_eq_nil_iff.1 hnil y hy
    simp [ha] at this
  rw [sinceIssue, List.dropWhile_append, if_neg (by simpa using hne), List.tail_append_of_ne_nil hne]
  rfl

theorem sinceIssue_issue (ht : t ∉ issuedIn h) (hx : x.answer = .ticket t) :
    sinceIssue t (h ++ [x]) = [] := by
  have hall : h.dropWhile (fun x => x.answer ≠ .ticket t) = [] := by
    refine List.dropWhile_eq_nil_iff.2 fun y hy => decide_eq_true fun ha => ht ?_
    exact List.mem_filterMap.2 ⟨y, hy, by rw [ha]; rfl⟩
  rw [sinceIssue, List.dropWhile_append, hall]
  simp [hx]

theorem outdated_concat_iff (ht : t ∈ issuedIn h) (x : Entry) :
    Outdated t (h ++ [x]) ↔ Outdated t h ∨ x.Outdates t := by
  simp only [Outdated, sinceIssue_concat ht, List.mem_append, List.mem_singleton, or_and_right,
    exists_or, exists_eq_left]

/-! ## The invariant -/

/-- **One operation.** It makes a ticket that is out stale exactly when it outdates it. -/
theorem isStale_step (hb : p.Balanced (outIn h)) (ho : ∀ t, o.ticket? = some t → t ∈ outIn h)
    (ht : t ∈ outIn h) (hback : o.ticket? ≠ some t) :
    (p.step o).1.isStale t = true ↔ p.isStale t = true ∨ (p.entry o).Outdates t := by
  cases o with
  | begin u => exact (or_iff_left id).symm
  | complete t' findings =>
    have hne : t ≠ t' := fun e => hback (e ▸ rfl)
    have hans : (p.entry (.complete t' findings)).answer = .truth true ↔ p.isStale t' = false := by
      cases hs : p.isStale t' with
      | true => simp [entry, step, complete_of_stale hs]
      | false => simp [entry, step, complete_of_fresh hs]
    change (p.complete t' findings).1.isStale t = true ↔ _ ∨ _ ∧ t.uri = t'.uri ∧ t.number < t'.number
    rw [hb.isStale_complete (ho t' rfl) ht hne, hans]
    simp
  | abandon t' =>
    have hne : t ≠ t' := fun e => hback (e ▸ rfl)
    change (p.retire t'.uri).isStale t = true ↔ _ ∨ False
    rw [hb.isStale_retire (ho t' rfl) ht hne, or_false]
  | publish u findings =>
    change (p.invalidate u).isStale t = true ↔ _ ∨ t.uri = u
    rw [hb.isStale_invalidate u ht]
    simp
  | retract u =>
    change (p.invalidate u).isStale t = true ↔ _ ∨ t.uri = u
    rw [hb.isStale_invalidate u ht]
    simp

/-- **The bookkeeping knows what the record knows.** A ticket that is out is stale exactly when
something in the record has outdated it. -/
theorem Honest.isStale_iff (hops : Honest ops) (ht : t ∈ outIn (empty.record ops)) :
    (empty.run ops).isStale t = true ↔ Outdated t (empty.record ops) := by
  induction ops using List.reverseRecOn generalizing t with
  | nil => simp [record, outIn, issuedIn] at ht
  | append_singleton ops o ih =>
    obtain ⟨hold, ho⟩ := honest_concat_iff.1 hops
    have hk := hold.kept
    rw [run_concat]
    rw [record_concat] at ht ⊢
    by_cases hissued : t ∈ issuedIn (empty.record ops)
    · -- A ticket that was out before: it is stale now if it was or if this operation outdates it.
      have hret : t ∉ returnedIn (empty.record ops) ∧ o.ticket? ≠ some t := by
        have := (mem_outIn_iff.1 ht).2
        rw [returnedIn_concat, List.mem_append, not_or] at this
        exact ⟨this.1, fun e => this.2 (by simp [entry, e])⟩
      have hout := mem_outIn_iff.2 ⟨hissued, hret.1⟩
      rw [isStale_step hk.balanced ho hout hret.2, ih hold hout, outdated_concat_iff hissued]
    · -- A new ticket: it has just been issued, and nothing can have outdated it yet.
      have hnew := (mem_outIn_iff.1 ht).1
      rw [issuedIn_concat, List.mem_append, or_iff_right hissued, Option.mem_toList] at hnew
      cases o with
      | begin u =>
        obtain rfl : t = ((empty.run ops).begin u).2 := (Option.some.inj hnew).symm
        change (empty.run ops).isStale _ = true ↔ _
        rw [hk.balanced.isStale_new u, Outdated, sinceIssue_issue hissued rfl]
        simp
      | complete t' findings => cases hnew
      | abandon t' => cases hnew
      | publish u findings => cases hnew
      | retract u => cases hnew

/-! ## The law -/

theorem issuedIn_pairwise (ops : List Operation) :
    (issuedIn (empty.record ops)).Pairwise (·.number < ·.number) ∧
      ∀ t ∈ issuedIn (empty.record ops), t.number ≤ (empty.run ops).issued := by
  induction ops using List.reverseRecOn with
  | nil => simp [record, issuedIn]
  | append_singleton ops o ih =>
    obtain ⟨hpair, hle⟩ := ih
    have hmono := issued_le_step (empty.run ops) o
    rw [run_concat, record_concat, issuedIn_concat]
    cases hans : ((empty.run ops).entry o).answer.ticket? with
    | none =>
      rw [Option.toList_none, List.append_nil]
      exact ⟨hpair, fun t ht => (hle t ht).trans hmono⟩
    | some t =>
      cases o with
      | begin u =>
        obtain rfl : ((empty.run ops).begin u).2 = t := Option.some.inj hans
        refine ⟨List.pairwise_append.2 ⟨hpair, List.pairwise_singleton _ _, fun t ht t' ht' => ?_⟩,
          fun t ht => ?_⟩
        · rw [Option.toList_some, List.mem_singleton] at ht'
          exact ht' ▸ Nat.lt_succ_of_le (hle t ht)
        · rcases List.mem_append.1 ht with ht | ht
          · exact (hle t ht).trans hmono
          · rw [Option.toList_some, List.mem_singleton] at ht
            exact ht ▸ Nat.le_refl _
      | complete t' findings => cases hans
      | abandon t' => cases hans
      | publish u findings => cases hans
      | retract u => cases hans

/-- **The law of staleness.** If tickets come back at most once, a run is applied exactly when
nothing has outdated its ticket since. -/
theorem applied_iff_not_outdated (ops : List Operation) :
    (issuedIn (empty.record ops)).Pairwise (·.number < ·.number) ∧
    (∀ t findings, Honest (ops ++ [.complete t findings]) →
      let p := empty.run ops
      let r := p.step (.complete t findings)
      let issues := findings.map Issue.ofFinding
      (¬ Outdated t (empty.record ops) → r.2 = (.truth true, [.publish t.uri issues]) ∧
        ∀ u, r.1.issues? u = if u = t.uri then some issues else p.issues? u) ∧
      (Outdated t (empty.record ops) → r.2 = (.truth false, []) ∧ r.1.tracked = p.tracked)) ∧
    (Honest ops → ∀ u, ((empty.run ops).step (.retract u)).2.1 = .truth true ↔
      ((empty.run ops).issues? u).isSome ∨
        ∃ t ∈ issuedIn (empty.record ops), t.uri = u ∧ t ∉ returnedIn (empty.record ops)) := by
  refine ⟨(issuedIn_pairwise ops).1, fun t findings hops => ?_, fun hops u => ?_⟩
  · obtain ⟨hold, ho⟩ := honest_concat_iff.1 hops
    have hstale := hold.isStale_iff (ho t rfl)
    refine ⟨fun hnot => ?_, fun hout => ?_⟩
    · have hs : (empty.run ops).isStale t = false :=
        Bool.eq_false_iff.2 fun hs => hnot (hstale.1 hs)
      refine ⟨by simp only [step, complete_of_fresh hs], fun u => ?_⟩
      simp only [step, complete_of_fresh hs, issues?, retire_tracked, accept, Table.get?_insert]
    · have hs := hstale.2 hout
      exact ⟨by simp only [step, complete_of_stale hs],
        by simp only [step, complete_of_stale hs, retire_tracked]⟩
  · have hout : (∃ t ∈ outIn (empty.record ops), t.uri = u) ↔
        ∃ t ∈ issuedIn (empty.record ops), t.uri = u ∧ t ∉ returnedIn (empty.record ops) :=
      exists_congr fun t => by rw [mem_outIn_iff, and_right_comm, and_assoc]
    rw [← hout, ← hops.kept.balanced.contains_iff u]
    simp [step, retract, issues?, Table.contains]

/-- Of two runs that are under way when a document is removed and checked again, only the one that
began after the removal is applied. The bookkeeping of the older one had its other ticket given up. -/
theorem later_run_applied_after_removal :
    let u : Uri := ⟨"a"⟩
    let ops : List Operation := [.begin u, .begin u, .abandon ⟨u, 2⟩, .retract u, .begin u]
    (Honest (ops ++ [.complete ⟨u, 1⟩ []]) ∧ Outdated ⟨u, 1⟩ (empty.record ops) ∧
      ((empty.run ops).step (.complete ⟨u, 1⟩ [])).2 = (.truth false, [])) ∧
    (Honest (ops ++ [.complete ⟨u, 3⟩ []]) ∧ ¬ Outdated ⟨u, 3⟩ (empty.record ops) ∧
      ((empty.run ops).step (.complete ⟨u, 3⟩ [])).2 = (.truth true, [.publish u []])) ∧
    (Honest ops ∧ ((empty.run ops).step (.retract u)).2.1 = .truth true) := by
  intro u ops
  have hold : Honest (ops ++ [.complete ⟨u, 1⟩ []]) := by decide
  have hout : Outdated ⟨u, 1⟩ (empty.record ops) := by decide
  have hnew : Honest (ops ++ [.complete ⟨u, 3⟩ []]) := by decide
  have hnot : ¬ Outdated ⟨u, 3⟩ (empty.record ops) := by decide
  have hops : Honest ops := by decide
  obtain ⟨_, hcomplete, hretract⟩ := applied_iff_not_outdated ops
  exact ⟨⟨hold, hout, ((hcomplete ⟨u, 1⟩ [] hold).2 hout).1⟩,
    ⟨hnew, hnot, ((hcomplete ⟨u, 3⟩ [] hnew).1 hnot).1⟩,
    ⟨hops, (hretract hops u).2 (.inr ⟨⟨u, 1⟩, by decide⟩)⟩⟩

end LintServer.Publisher
