import LintServer.Proofs.Linter.Operations

/-!
# The bookkeeping of a linter

The publisher counts the runs on a document that are under way and remembers up to which ticket they
are stale, and it forgets both with the last of them. However the runs overlap, whatever else is
published or removed, and however they end, the count is right, and nothing is left when no run is
under way.

* `runsOn`: how many runs on a document are under way;
* `runsOn_eq_countP`: these are the attempts whose validator runs;
* **`bookkeeping_fits`**: the counts, the marks of staleness and the numbers of the tickets.
-/

namespace LintServer

/-- How many runs on a document have started and have not ended. -/
def runsOn (h : List Mark) (u : Uri) : Nat := (underWay h).countP (·.uri = u)

namespace Linter

theorem countP_tickets {l : Linter} (hl : l.Orderly) (u : Uri) : l.tickets.countP (·.uri = u) =
    l.attempts.values.countP fun a => a.uri = u ∧ a.stage.ticket?.isSome := by
  rw [tickets, ticketsOf, List.countP_filterMap]
  refine List.countP_congr fun a ha => ?_
  obtain ⟨id, hget⟩ := (Table.mem_values_iff _ a).1 ha
  obtain ⟨v, text, stage⟩ := a
  cases stage with
  | running t => simp [Stage.ticket?, hl.uri_eq id v text t hget]
  | _ => simp [Stage.ticket?]

theorem runsOn_eq_countP (s : ValidatorSettings) (installed : Bool) (as : List Action) (u : Uri) :
    runsOn ((start s installed).1.marks as) u =
      ((start s installed).1.run as).attempts.values.countP
        fun a => a.uri = u ∧ a.stage.ticket?.isSome := by
  rw [runsOn, ← (tickets_perm s installed as).countP_eq]
  exact countP_tickets ((orderly_start s installed).run as) u

/-- **The bookkeeping fits the runs**, after any actions in any order: what is kept are the
documents with runs under way, and how many there are. -/
theorem bookkeeping_fits (s : ValidatorSettings) (installed : Bool) (as : List Action) :
    let l := (start s installed).1.run as
    let h := (start s installed).1.marks as
    (startedIn h).map Ticket.number = List.range' 1 l.publisher.issued ∧
      (startedIn h).Perm (endedIn h ++ l.tickets) ∧
      (∀ u, l.publisher.outstanding.get? u =
        if runsOn h u = 0 then none else some (runsOn h u)) ∧
      (∀ u, runsOn h u =
        l.attempts.values.countP fun a => a.uri = u ∧ a.stage.ticket?.isSome) ∧
      (∀ u n, l.publisher.staleUpTo.get? u = some n →
        l.publisher.outstanding.contains u = true ∧ n ≤ l.publisher.issued) ∧
      ((∀ a ∈ l.attempts.values, a.stage.ticket? = none) →
        l.publisher.outstanding = .empty ∧ l.publisher.staleUpTo = .empty) := by
  intro l h
  have hl : l.Orderly := (orderly_start s installed).run as
  have hout : l.publisher.Balanced (underWay h) := hl.balanced.perm (tickets_perm s installed as)
  refine ⟨numbers_startedIn s installed as, tickets_kept (orderly_start s installed) as,
    hout.outstanding_eq, runsOn_eq_countP s installed as, fun u n hn => ⟨?_, hout.stale_le u n hn⟩,
    fun hidle => ?_⟩
  · by_contra hnone
    rw [Bool.not_eq_true, Table.contains_eq_false_iff] at hnone
    rw [hout.pruned u hnone] at hn
    cases hn
  · have hcount : ∀ u, l.publisher.outstanding.get? u = none := by
      intro u
      rw [hout.outstanding_eq u, if_pos]
      refine (runsOn_eq_countP s installed as u).trans (List.countP_eq_zero.2 fun a ha => ?_)
      simp [hidle a ha]
    exact ⟨Table.eq_empty hcount, Table.eq_empty fun u => hout.pruned u (hcount u)⟩

/-- Three runs on two documents overlap while one document is removed and the other is given issues
by hand. Two of them come to their end and one fails; then nothing is kept of them. -/
theorem nothing_kept_after_three_runs :
    let s : ValidatorSettings :=
      ⟨"jsonlint", "npx", "npm", [], ⟨"/tmp"⟩, "json", by decide, by decide, by decide, by decide⟩
    let a : Uri := ⟨"a"⟩
    let b : Uri := ⟨"b"⟩
    let before : List Action := [.checkText a "x", .checkText b "y", .checkText a "z", .advance 0,
      .advance 1, .retract a, .advance 2, .ended 2 (.ok ⟨true, ""⟩), .publish b []]
    let after : List Action := [.ended 1 (.ok ⟨true, ""⟩),
      .ended 0 (.error (.interrupted "npx" .brokenPipe))]
    let l := (start s true).1.run before
    let l' := (start s true).1.run (before ++ after)
    (runsOn ((start s true).1.marks before) a = 1 ∧ runsOn ((start s true).1.marks before) b = 1 ∧
      l.publisher.staleUpTo.get? a = some 3 ∧ l.publisher.staleUpTo.get? b = some 3) ∧
      l'.publisher.issued = 3 ∧
      l'.publisher.outstanding = .empty ∧ l'.publisher.staleUpTo = .empty := by
  intro s a b before after l l'
  have hidle : ∀ a ∈ l'.attempts.values, a.stage.ticket? = none := by decide
  have hempty := (bookkeeping_fits s true (before ++ after)).2.2.2.2.2 hidle
  refine ⟨by decide, by decide, ?_⟩
  simpa only [l'] using hempty

end Linter

end LintServer
