import LintServer.Proofs.Linter.Life

/-!
# After the removal of a document

The removal of a document makes the tickets stale that have been taken before. A run that starts
later has a ticket of its own, and that is as good as any other: the document comes back exactly if
such a run comes to its end.

* **`Removed`**: what holds from the removal of a document on;
* `removed_retract`: it holds at first;
* **`Removed.change`**: it goes on to hold until the document is replaced or removed again.
-/

namespace LintServer.Linter

variable {l l' : Linter} {h : List Mark} {ns : List Notice} {m : Option Mark} {ns' : List Notice}
  {u : Uri}

/-- **A document has been removed** before the marks and the notices, and not been replaced since
other than by runs. -/
structure Removed (l : Linter) (h : List Mark) (ns : List Notice) (u : Uri) : Prop where
  told : (∃ issues, .publish u issues ∈ ns) ↔ (l.publisher.issues? u).isSome
  tracked : (l.publisher.issues? u).isSome ↔ ∃ t ∈ startedIn h, t.uri = u ∧ t ∈ completedIn h
  /-- Only the runs since then can be applied. -/
  started : ∀ t ∈ l.tickets, t.uri = u → l.publisher.isStale t = false → t ∈ startedIn h
  /-- Of these, only one that has been applied makes others stale. -/
  overtaken : ∀ t ∈ l.tickets, t.uri = u → t ∈ startedIn h → l.publisher.isStale t = true →
    (l.publisher.issues? u).isSome
  number_le : ∀ t ∈ completedIn h, t.number ≤ l.publisher.issued

theorem removed_retract (hl : l.Orderly) (hattempts : l'.attempts = l.attempts)
    (hpublisher : l'.publisher = (l.publisher.retract u).1) : Removed l' [] [] u where
  told := by simp [hpublisher, Publisher.issues?_retract]
  tracked := by simp [hpublisher, Publisher.issues?_retract, startedIn]
  started t ht hu hs := by
    rw [tickets, hattempts] at ht
    rw [hpublisher, hl.balanced.isStale_retract u ht, decide_eq_true hu, Bool.or_true] at hs
    cases hs
  overtaken t _ _ ht _ := absurd ht List.not_mem_nil
  number_le t ht := absurd ht List.not_mem_nil

namespace Removed

/-- Nothing is applied to the document: a run that starts has a ticket of its own, and one that ends
is too old. -/
theorem of_unapplied (hl : l.Orderly) (hr : Removed l h ns u) (hc : Change l l' m ns')
    (hreplaced : ∀ findings, m ≠ some (.replaced u findings)) (hremoved : m ≠ some (.removed u))
    (hold : ∀ id t run, m = some (.ended id t (.ok run)) → t.uri = u →
      l.publisher.isStale t = true) :
    Removed l' (h ++ m.toList) (ns ++ ns') u := by
  obtain ⟨hsilent, hissues, hstale⟩ := unapplied_change hl hc hreplaced hremoved hold
  refine ⟨?_, ?_, fun t ht hu hfresh => ?_, fun t ht hu hin hs => ?_, fun t ht => ?_⟩
  · rw [hissues, ← hr.told]
    refine exists_congr fun issues => ⟨fun hmem => ?_, List.mem_append_left _⟩
    exact (List.mem_append.1 hmem).resolve_right (hsilent issues)
  · rw [hissues]
    refine ⟨fun hsome => ?_, ?_⟩
    · obtain ⟨t, hs, hu, hcomp⟩ := hr.tracked.1 hsome
      exact ⟨t, mem_startedIn_append.2 (.inl hs), hu, mem_completedIn_append.2 (.inl hcomp)⟩
    · rintro ⟨t, hs, hu, hcomp⟩
      rcases mem_completedIn_append.1 hcomp with hback | ⟨id, run, hm⟩
      · rcases mem_startedIn_append.1 hs with hs | ⟨id, x, hm⟩
        · exact hr.tracked.2 ⟨t, hs, hu, hback⟩
        · -- The ticket of a run that starts now is too new to have come back before.
          subst hm
          have hle := hr.number_le t hback
          rw [hc.started_ticket.2.1] at hle
          exact absurd hle (Nat.not_succ_le_self _)
      · subst hm
        obtain ⟨v, x, hget, _⟩ := hc.ended_attempt
        refine hr.overtaken t (Orderly.mem_tickets hget) hu ?_ (hold id t run rfl hu)
        rcases mem_startedIn_append.1 hs with hs | ⟨id', x', hm⟩
        · exact hs
        · cases hm
  · refine mem_startedIn_append.2 ?_
    rcases mem_tickets_change hc ht with hmem | ⟨id, x, hm, _⟩
    · exact .inl (hr.started t hmem hu (hstale t ht hmem hu ▸ hfresh))
    · exact .inr ⟨id, x, hm⟩
  · rw [hissues]
    rcases mem_startedIn_append.1 hin with hin | ⟨id, x, hm⟩
    · rcases mem_tickets_change hc ht with hmem | ⟨id, x, hm, _⟩
      · exact hr.overtaken t hmem hu hin (hstale t ht hmem hu ▸ hs)
      · subst hm
        exact absurd hs (by rw [isStale_of_started hl hc]; simp)
    · subst hm
      exact absurd hs (by rw [isStale_of_started hl hc]; simp)
  · rcases mem_completedIn_append.1 ht with ht | ⟨id, run, hm⟩
    · exact (hr.number_le t ht).trans (issued_le_change hc)
    · subst hm
      obtain ⟨v, x, hget, _⟩ := hc.ended_attempt
      exact (hl.balanced.number_le t (Orderly.mem_tickets hget)).trans (issued_le_change hc)

theorem of_applied (hl : l.Orderly) (hr : Removed l h ns u) {t₀ : Ticket} {run : Run} {id : Nat}
    (hmem₀ : t₀ ∈ l.tickets) (hu₀ : t₀.uri = u) (hfresh₀ : l.publisher.isStale t₀ = false)
    (hp : l'.publisher = (l.publisher.complete t₀ run.findings).1)
    (ht : ∀ t ∈ l'.tickets, t ≠ t₀ ∧ t ∈ l.tickets) :
    Removed l' (h ++ (some (Mark.ended id t₀ (.ok run))).toList)
      (ns ++ [.publish t₀.uri (run.findings.map Issue.ofFinding)]) u := by
  subst hu₀
  have hissues : (l'.publisher.issues? t₀.uri).isSome := by
    rw [hp, Publisher.complete_of_fresh hfresh₀, Publisher.issues?_retire, Publisher.issues?_accept,
      if_pos rfl]
    rfl
  refine ⟨iff_of_true ⟨_, List.mem_append_right _ List.mem_cons_self⟩ hissues,
    iff_of_true hissues ⟨t₀, ?_, rfl, ?_⟩, fun t hmem hu hfresh => ?_, fun t _ _ _ _ => hissues,
    fun t hmem => ?_⟩
  · exact mem_startedIn_append.2 (.inl (hr.started t₀ hmem₀ rfl hfresh₀))
  · exact mem_completedIn_append.2 (.inr ⟨id, run, rfl⟩)
  · rw [hp, hl.balanced.isStale_complete hmem₀ (ht t hmem).2 (ht t hmem).1,
      Bool.or_eq_false_iff] at hfresh
    exact mem_startedIn_append.2 (.inl (hr.started t (ht t hmem).2 hu hfresh.1))
  · rw [hp, Publisher.complete_of_fresh hfresh₀, Publisher.retire_issued]
    rcases mem_completedIn_append.1 hmem with hmem | ⟨id', run', hm⟩
    · exact hr.number_le t hmem
    · cases hm
      exact hl.balanced.number_le t₀ hmem₀

/-- **Nothing but a run that started after the removal brings the document back.** -/
theorem change (hl : l.Orderly) (hr : Removed l h ns u) (hc : Change l l' m ns')
    (hreplaced : ∀ findings, m ≠ some (.replaced u findings)) (hremoved : m ≠ some (.removed u)) :
    Removed l' (h ++ m.toList) (ns ++ ns') u := by
  by_cases hold : ∀ id t run, m = some (.ended id t (.ok run)) → t.uri = u →
      l.publisher.isStale t = true
  · exact hr.of_unapplied hl hc hreplaced hremoved hold
  · simp only [not_forall, Bool.not_eq_true] at hold
    obtain ⟨id, t, run, rfl, hu, hs⟩ := hold
    cases hc with
    | completed id v x t run hget hattempts hpublisher hnext =>
      rw [Publisher.complete_of_fresh hs]
      exact hr.of_applied hl (Orderly.mem_tickets hget) hu hs hpublisher
        fun t => (hl.mem_tickets_erase_iff hget hattempts).1

end Removed

end LintServer.Linter
