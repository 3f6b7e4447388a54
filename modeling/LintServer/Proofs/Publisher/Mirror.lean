import LintServer.Proofs.Publisher.Record
import LintServer.Proofs.Table
import Mathlib.Data.List.Dedup

/-!
# What the editor knows

A publisher keeps the issues of the documents and tells the editor about every change. Someone who
knows nothing but the notices knows the issues too, however the tickets are used.

* `Screen`, `Notice.onto`, `replay`: what the notices say, one after the other;
* `step_notices`: an operation tells of its change, or changes nothing that is shown;
* **`Mirrored`**, **`mirrored_run`**: the notices of a run say what is tracked.
-/

namespace LintServer

/-- What is known of every document: its issues, if it is tracked. -/
abbrev Screen : Type := Uri → Option (List Issue)

namespace Notice

/-- The document that a notice is about. -/
def uri : Notice → Uri
  | publish u _ => u
  | clear u => u

/-- The issues of the document from now on. -/
def issues? : Notice → Option (List Issue)
  | publish _ issues => some issues
  | clear _ => none

/-- What is known after a notice. -/
def onto (n : Notice) (s : Screen) : Screen := fun u => if u = n.uri then n.issues? else s u

end Notice

namespace Publisher

/-- What is known after some notices. -/
def replay (ns : List Notice) : Screen := ns.foldl (fun s n => n.onto s) fun _ => none

/-- The notices in a record. -/
def noticesIn (h : List Entry) : List Notice := h.flatMap Entry.notices

variable {p : Publisher} {ns : List Notice} {u : Uri}

theorem replay_concat (ns : List Notice) (n : Notice) :
    replay (ns ++ [n]) = n.onto (replay ns) := by
  rw [replay, List.foldl_append]
  rfl

theorem noticesIn_concat (h : List Entry) (x : Entry) :
    noticesIn (h ++ [x]) = noticesIn h ++ x.notices := by
  rw [noticesIn, List.flatMap_append, List.flatMap_singleton]
  rfl

theorem exists_publish_of_foldl {s : Screen} (hs : s u = none)
    (h : ((ns.foldl (fun s n => n.onto s) s) u).isSome) : ∃ issues, .publish u issues ∈ ns := by
  induction ns using List.reverseRecOn with
  | nil => simp [hs] at h
  | append_singleton ns n ih =>
    rw [List.foldl_append] at h
    by_cases hu : u = n.uri
    · cases n with
      | publish v issues =>
        exact ⟨issues, by rw [show u = v from hu]; exact List.mem_append_right _ List.mem_cons_self⟩
      | clear v => simp [Notice.onto, hu, Notice.issues?] at h
    · obtain ⟨issues, hm⟩ := ih (by simpa [Notice.onto, hu] using h)
      exact ⟨issues, List.mem_append_left _ hm⟩

/-! ## One operation -/

@[simp] theorem issues?_retire (p : Publisher) (u v : Uri) :
    (p.retire u).issues? v = p.issues? v := by
  rw [issues?, retire_tracked, issues?]

theorem issues?_accept (p : Publisher) (t : Ticket) (findings : List Finding) (v : Uri) :
    (p.accept t findings).issues? v =
      if v = t.uri then some (findings.map Issue.ofFinding) else p.issues? v :=
  Table.get?_insert _ _ _ _

theorem issues?_publish (p : Publisher) (u : Uri) (findings : List Finding) (v : Uri) :
    (p.publish u findings).1.issues? v =
      if v = u then some (findings.map Issue.ofFinding) else p.issues? v := by
  refine (Table.get?_insert _ _ _ _).trans ?_
  rw [invalidate_tracked]
  rfl

theorem issues?_retract (p : Publisher) (u v : Uri) :
    (p.retract u).1.issues? v = if v = u then none else p.issues? v :=
  Table.get?_erase _ _ _

/-- An operation changes nothing that is shown and is silent, or tells of its one change. It clears
only what is tracked. -/
theorem step_notices (p : Publisher) (o : Operation) :
    ((p.step o).2.2 = [] ∧ (p.step o).1.issues? = p.issues?) ∨
      ∃ n, (p.step o).2.2 = [n] ∧ (p.step o).1.issues? = n.onto p.issues? ∧
        ∀ u, n = .clear u → (p.issues? u).isSome := by
  cases o with
  | begin u => exact .inl ⟨rfl, rfl⟩
  | complete t findings =>
    cases hs : p.isStale t with
    | true =>
      have hr : p.step (.complete t findings) = (p.retire t.uri, .truth false, []) := by
        simp only [step, complete_of_stale hs]
      rw [hr]
      exact .inl ⟨rfl, funext fun v => issues?_retire _ _ _⟩
    | false =>
      have hr : p.step (.complete t findings) = ((p.accept t findings).retire t.uri, .truth true,
          [.publish t.uri (findings.map Issue.ofFinding)]) := by
        simp only [step, complete_of_fresh hs]
      rw [hr]
      refine .inr ⟨_, rfl, funext fun v => ?_, fun u hu => by cases hu⟩
      rw [issues?_retire, issues?_accept]
      rfl
  | abandon t => exact .inl ⟨rfl, funext fun v => issues?_retire _ _ _⟩
  | publish u findings =>
    exact .inr ⟨_, rfl, funext fun v => issues?_publish p u findings v, fun v hv => by cases hv⟩
  | retract u =>
    cases hc : p.tracked.contains u with
    | true =>
      refine .inr ⟨.clear u, by simp [step, retract, hc], funext (issues?_retract p u), ?_⟩
      rintro v ⟨⟩
      exact hc
    | false =>
      refine .inl ⟨by simp [step, retract, hc], funext fun v => ?_⟩
      refine (issues?_retract p u v).trans ?_
      by_cases hv : v = u
      · rw [if_pos hv, hv]
        exact ((Table.contains_eq_false_iff _ _).1 hc).symm
      · rw [if_neg hv]

/-! ## Runs -/

theorem errorCount_eq_total (b : Board) : b.errorCount = b.total fun _ issues => issues.length := by
  rw [Board.errorCount, List.length_flatten, Table.values, List.map_map]
  rfl

/-- **The notices say what is tracked.** -/
structure Mirrored (p : Publisher) (ns : List Notice) : Prop where
  issues : ∀ u, replay ns u = p.issues? u
  isEmpty : p.tracked.isEmpty = true ↔ ∀ u, replay ns u = none
  /-- Every error is one of the issues of one of the documents. -/
  errorCount : p.tracked.errorCount =
    ((ns.map Notice.uri).dedup.map fun u => ((replay ns u).getD []).length).sum
  /-- Only a document that is tracked is cleared. -/
  cleared : ∀ before u after, ns = before ++ .clear u :: after → (replay before u).isSome

theorem Mirrored.of_issues (hi : ∀ u, replay ns u = p.issues? u)
    (hc : ∀ before u after, ns = before ++ .clear u :: after → (replay before u).isSome) :
    p.Mirrored ns where
  issues := hi
  isEmpty := by
    simp only [hi]
    exact Table.isEmpty_iff _
  errorCount := by
    have hall : ∀ u issues, p.tracked.get? u = some issues → u ∈ (ns.map Notice.uri).dedup := by
      intro u issues hu
      have hsome : (replay ns u).isSome := by
        rw [hi]
        exact Option.isSome_iff_exists.2 ⟨issues, hu⟩
      obtain ⟨_, hm⟩ := exists_publish_of_foldl rfl hsome
      exact List.mem_dedup.2 (List.mem_map.2 ⟨_, hm, rfl⟩)
    rw [errorCount_eq_total, Table.total_eq_sum _ _ (List.nodup_dedup _) hall]
    refine congrArg List.sum (List.map_congr_left fun u _ => ?_)
    rw [hi, issues?]
    cases p.tracked.get? u <;> rfl
  cleared := hc

theorem Mirrored.exists_publish_between (h : p.Mirrored ns) {before between after : List Notice}
    (hsplit : ns = before ++ .clear u :: (between ++ .clear u :: after)) :
    ∃ issues, .publish u issues ∈ between := by
  have hsome := h.cleared (before ++ .clear u :: between) u after (by rw [hsplit]; simp)
  rw [replay, List.foldl_append, List.foldl_cons] at hsome
  exact exists_publish_of_foldl (if_pos rfl) hsome

/-- **The editor can know the issues from the notices**, after any operations. -/
theorem mirrored_run (ops : List Operation) :
    (empty.run ops).Mirrored (noticesIn (empty.record ops)) := by
  induction ops using List.reverseRecOn with
  | nil =>
    refine .of_issues (fun u => rfl) fun before u after h => ?_
    cases before <;> cases h
  | append_singleton ops o ih =>
    rw [run_concat, record_concat, noticesIn_concat]
    change ((empty.run ops).step o).1.Mirrored (_ ++ ((empty.run ops).step o).2.2)
    rcases step_notices (empty.run ops) o with ⟨hns, hsame⟩ | ⟨n, hns, honto, hclear⟩
    · rw [hns, List.append_nil]
      exact .of_issues (fun u => by rw [hsame, ih.issues]) ih.cleared
    · rw [hns]
      refine .of_issues (fun u => ?_) fun before u after hsplit => ?_
      · rw [replay_concat, honto, funext ih.issues]
      · rcases List.eq_nil_or_concat after with rfl | ⟨rest, m, rfl⟩
        · -- The last notice: the operation clears what has been tracked before it.
          obtain ⟨rfl, hn⟩ := List.append_inj' hsplit rfl
          rw [ih.issues]
          exact hclear u (List.cons.inj hn).1
        · refine ih.cleared before u rest ?_
          rw [List.concat_eq_append, ← List.cons_append, ← List.append_assoc] at hsplit
          exact (List.append_inj' hsplit rfl).1

end Publisher

end LintServer
