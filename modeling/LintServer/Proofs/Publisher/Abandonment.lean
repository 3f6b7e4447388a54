import LintServer.Proofs.Publisher.Mirror
import LintServer.Proofs.Publisher.Staleness

/-!
# Runs that come to nothing

A run whose ticket is abandoned might as well not have begun. Without it the later tickets have
smaller numbers, and the bookkeeping of its document may be given up earlier, but nobody can tell:
the editor is told the same, the same issues are tracked, and every other run fares the same. Only
the removal of the document answers, as long as the run is under way, that there was something to
remove.

* `closeUp`: the number of a ticket when another one has not been issued;
* `SameBut`: entries that differ in the answer to a removal at most;
* `Without`, `Without.run`: the operations with a run that comes to nothing, and those without it;
* **`abandoned_run_leaves_no_trace`**: nobody can tell the difference.
-/

namespace LintServer.Publisher

variable {p : Publisher} {u : Uri} {x t t' : Ticket} {o : Operation} {e e' : Entry}
  {ops ops' before after l : List Operation}

/-! ## Numbers without one ticket -/

/-- A ticket as it is when another one has not been issued. -/
def closeUp (x t : Ticket) : Ticket :=
  ⟨t.uri, if x.number < t.number then t.number - 1 else t.number⟩

theorem closeUp_of_le (h : t.number ≤ x.number) : closeUp x t = t := by
  rw [closeUp, if_neg (Nat.not_lt.2 h)]

theorem closeUp_lt_iff (ht : t.number ≠ x.number) (ht' : t'.number ≠ x.number) :
    (closeUp x t).number < (closeUp x t').number ↔ t.number < t'.number := by
  simp only [closeUp]
  split_ifs
  all_goals omega

/-- An entry with and without a run. The numbers of the tickets differ, and the removal of the
document may have had nothing to remove but the run. -/
def SameBut (x : Ticket) (e e' : Entry) : Prop :=
  e' = e.rename (closeUp x) ∨
    (e.operation = .retract x.uri ∧ e.answer = .truth true ∧
      ∃ b, e' = { e.rename (closeUp x) with answer := .truth b })

theorem SameBut.notices (h : SameBut x e e') : e'.notices = e.notices := by
  rcases h with rfl | ⟨-, -, b, rfl⟩
  · rfl
  · rfl

theorem SameBut.outdates_iff (h : SameBut x e e') (ht : t.number ≠ x.number)
    (he : ∀ t', e.operation.ticket? = some t' → t'.number ≠ x.number) :
    e'.Outdates (closeUp x t) ↔ e.Outdates t := by
  obtain ⟨operation, answer, notices⟩ := e
  rcases h with rfl | ⟨rfl, -, b, rfl⟩
  · cases operation with
    | complete t' findings =>
      have hlt := closeUp_lt_iff ht (he t' rfl)
      have hanswer : answer.rename (closeUp x) = .truth true ↔ answer = .truth true := by
        cases answer <;> simp [Answer.rename]
      simp only [Entry.Outdates, Entry.rename, Operation.rename, hlt, hanswer]
      rfl
    | _ => rfl
  · rfl

/-! ## Operations with and without a run -/

/-- Some operations in which a ticket has been issued, and the same ones without it. -/
structure Without (x : Ticket) (ops ops' : List Operation) : Prop where
  honest : Honest ops
  honest' : Honest ops'
  begun : x ∈ issuedIn (empty.record ops)
  issued : (empty.run ops).issued = (empty.run ops').issued + 1
  out : (outIn (empty.record ops')).Perm
    (((outIn (empty.record ops)).erase x).map (closeUp x))
  issues : ∀ u, (empty.run ops').issues? u = (empty.run ops).issues? u
  isStale : ∀ t ∈ outIn (empty.record ops), t ≠ x →
    (empty.run ops').isStale (closeUp x t) = (empty.run ops).isStale t

theorem number_ne_of_issued (ht : t ∈ issuedIn (empty.record ops))
    (hx : x ∈ issuedIn (empty.record ops)) (hne : t ≠ x) : t.number ≠ x.number := by
  intro he
  have hnodup : ((issuedIn (empty.record ops)).map Ticket.number).Nodup :=
    List.pairwise_map.2 ((issuedIn_pairwise ops).1.imp fun hlt => Nat.ne_of_lt hlt)
  exact hne (List.inj_on_of_nodup_map hnodup ht hx he)

theorem issues?_step (p : Publisher) (o : Operation) :
    (p.step o).1.issues? = (p.step o).2.2.foldl (fun s n => n.onto s) p.issues? := by
  rcases step_notices p o with ⟨hns, hsame⟩ | ⟨n, hns, honto, -⟩
  · rw [hns, hsame]
    rfl
  · rw [hns, honto]
    rfl

theorem Kept.outIn_begin {h : List Entry} (hk : Kept p h) (u : Uri) :
    outIn (h ++ [p.entry (.begin u)]) = outIn h ++ [(p.begin u).2] :=
  outIn_concat_issue rfl rfl fun hm => hk.not_mem_issuedIn u (hk.issued_of_returned _ hm)

namespace Without

theorem number_ne (h : Without x ops ops') (ht : t ∈ outIn (empty.record ops)) (hne : t ≠ x) :
    t.number ≠ x.number :=
  number_ne_of_issued (mem_outIn_iff.1 ht).1 h.begun hne

theorem mem_out (h : Without x ops ops') (ht : t ∈ outIn (empty.record ops)) (hne : t ≠ x) :
    closeUp x t ∈ outIn (empty.record ops') :=
  h.out.mem_iff.2 (List.mem_map_of_mem ((List.mem_erase_of_ne hne).2 ht))

theorem start (hops : Honest (before ++ [.begin u])) :
    Without ((empty.run before).begin u).2 (before ++ [.begin u]) before := by
  obtain ⟨hbefore, -⟩ := honest_concat_iff.1 hops
  have hk := hbefore.kept
  have hout := hk.outIn_begin u
  have hnot : ((empty.run before).begin u).2 ∉ outIn (empty.record before) :=
    fun hm => hk.not_mem_issuedIn u (mem_outIn_iff.1 hm).1
  have hold : ∀ t ∈ outIn (empty.record before),
      closeUp ((empty.run before).begin u).2 t = t := by
    intro t ht
    exact closeUp_of_le (Nat.le_succ_of_le (hk.number_le t (mem_outIn_iff.1 ht).1))
  rw [← record_concat] at hout
  refine ⟨hops, hbefore, ?_, ?_, ?_, fun v => ?_, fun t ht hne => ?_⟩
  · rw [record_concat, issuedIn_concat]
    exact List.mem_append_right _ List.mem_cons_self
  · rw [run_concat, issued_step]
    rfl
  · rw [hout, List.erase_append_right _ hnot, List.erase_cons_head, List.append_nil,
      List.map_congr_left hold, List.map_id']
  · rw [run_concat]
    rfl
  · rw [hout] at ht
    have ht : t ∈ outIn (empty.record before) :=
      (List.mem_append.1 ht).resolve_right fun hm => hne (List.mem_singleton.1 hm)
    rw [hold t ht, run_concat]
    rfl

theorem abandon (h : Without x ops ops') (hx : x ∈ outIn (empty.record ops)) :
    Without x (ops ++ [.abandon x]) ops' := by
  have hk := h.honest.kept
  have hops : Honest (ops ++ [.abandon x]) :=
    honest_concat_iff.2 ⟨h.honest, fun t ht => Option.some.inj ht ▸ hx⟩
  have hout : outIn (empty.record (ops ++ [.abandon x])) = (outIn (empty.record ops)).erase x := by
    rw [record_concat]
    exact outIn_concat_return rfl rfl hk.balanced.nodup
  refine ⟨hops, h.honest', ?_, ?_, ?_, fun v => ?_, fun t ht hne => ?_⟩
  · rw [record_concat, issuedIn_concat]
    exact List.mem_append_left _ h.begun
  · rw [run_concat, issued_step, h.issued]
    rfl
  · have hgone : x ∉ (outIn (empty.record ops)).erase x := hk.balanced.nodup.not_mem_erase
    rw [hout, List.erase_of_not_mem hgone]
    exact h.out
  · rw [h.issues, run_concat]
    exact (issues?_retire _ _ _).symm
  · rw [hout] at ht
    have ht := List.mem_of_mem_erase ht
    rw [h.isStale t ht hne, run_concat]
    exact (hk.balanced.isStale_retire hx ht hne).symm

/-! ### One operation on both sides -/

/-- A ticket of the document is out on one side if one is out on the other side, or if it is the run
that counts. -/
theorem contains_iff (h : Without x ops ops') (v : Uri) :
    (empty.run ops).outstanding.contains v = true ↔
      (empty.run ops').outstanding.contains v = true ∨
        (x ∈ outIn (empty.record ops) ∧ x.uri = v) := by
  rw [h.honest.kept.balanced.contains_iff, h.honest'.kept.balanced.contains_iff]
  constructor
  · rintro ⟨t, ht, hu⟩
    by_cases hne : t = x
    · exact .inr ⟨hne ▸ ht, hne ▸ hu⟩
    · exact .inl ⟨closeUp x t, h.mem_out ht hne, hu⟩
  · rintro (⟨t', ht', hu⟩ | ⟨hx, hu⟩)
    · obtain ⟨t, ht, rfl⟩ := List.mem_map.1 (h.out.mem_iff.1 ht')
      exact ⟨t, List.mem_of_mem_erase ht, hu⟩
    · exact ⟨x, hx, hu⟩

/-- **The entries of an operation on both sides.** Once the run is over there is no difference but
in the numbers. -/
theorem entry (h : Without x ops ops')
    (ho : ∀ t, o.ticket? = some t → t ∈ outIn (empty.record ops) ∧ t ≠ x) :
    SameBut x ((empty.run ops).entry o) ((empty.run ops').entry (o.rename (closeUp x))) ∧
      (x ∉ outIn (empty.record ops) → (empty.run ops').entry (o.rename (closeUp x)) =
        ((empty.run ops).entry o).rename (closeUp x)) := by
  suffices hsame : (empty.run ops').entry (o.rename (closeUp x)) =
      ((empty.run ops).entry o).rename (closeUp x) ∨
        x ∈ outIn (empty.record ops) ∧
          SameBut x ((empty.run ops).entry o) ((empty.run ops').entry (o.rename (closeUp x))) by
    rcases hsame with he | ⟨hx, he⟩
    · exact ⟨.inl he, fun _ => he⟩
    · exact ⟨he, fun hnot => absurd hx hnot⟩
  cases o with
  | begin v =>
    left
    have hle : x.number ≤ (empty.run ops).issued := (issuedIn_pairwise ops).2 x h.begun
    have hnew : closeUp x ((empty.run ops).begin v).2 = ((empty.run ops').begin v).2 := by
      simp only [closeUp, Publisher.begin, h.issued]
      rw [if_pos (by have := h.issued; omega)]
      rfl
    simp only [Publisher.entry, Operation.rename, step, Entry.rename, Answer.rename, hnew]
  | complete t findings =>
    left
    obtain ⟨ht, hne⟩ := ho t rfl
    have hstale := h.isStale t ht hne
    simp only [Publisher.entry, Operation.rename, step, Entry.rename, Answer.rename]
    cases hs : (empty.run ops).isStale t with
    | true => rw [complete_of_stale hs, complete_of_stale (hstale.trans hs)]
    | false =>
      rw [complete_of_fresh hs, complete_of_fresh (hstale.trans hs)]
      rfl
  | abandon t => exact .inl rfl
  | publish v findings => exact .inl rfl
  | retract v =>
    have htracked : (empty.run ops').tracked.contains v = (empty.run ops).tracked.contains v :=
      congrArg Option.isSome (h.issues v)
    have hcontains := h.contains_iff v
    by_cases hx : x ∈ outIn (empty.record ops) ∧ x.uri = v
    · right
      refine ⟨hx.1, .inr ⟨?_, ?_, ((empty.run ops').retract v).2.1, ?_⟩⟩
      · rw [hx.2]
        rfl
      · have hout := hcontains.2 (.inr hx)
        simp only [Publisher.entry, step, Publisher.retract, hout, Bool.or_true]
      · simp only [Publisher.entry, Operation.rename, step, Publisher.retract, Entry.rename,
          htracked]
    · left
      rw [or_iff_left hx, ← Bool.eq_iff_iff] at hcontains
      simp only [Publisher.entry, Operation.rename, step, Publisher.retract, Entry.rename,
        Answer.rename, htracked, hcontains]

theorem out_step (h : Without x ops ops')
    (ho : ∀ t, o.ticket? = some t → t ∈ outIn (empty.record ops) ∧ t ≠ x)
    (hentry : SameBut x ((empty.run ops).entry o) ((empty.run ops').entry (o.rename (closeUp x)))) :
    (outIn (empty.record (ops' ++ [o.rename (closeUp x)]))).Perm
      (((outIn (empty.record (ops ++ [o]))).erase x).map (closeUp x)) := by
  have hk := h.honest.kept
  have hk' := h.honest'.kept
  rw [record_concat, record_concat]
  -- A ticket that comes back on one side comes back on the other side.
  have hreturn : ∀ t, o.ticket? = some t → ((empty.run ops).entry o).answer.ticket? = none →
      ((empty.run ops').entry (o.rename (closeUp x))).answer.ticket? = none →
      (outIn (empty.record ops' ++ [(empty.run ops').entry (o.rename (closeUp x))])).Perm
        (((outIn (empty.record ops ++ [(empty.run ops).entry o])).erase x).map (closeUp x)) := by
    intro t ht ha ha'
    have ht' : (o.rename (closeUp x)).ticket? = some (closeUp x t) := by rw [ticket?_rename, ht]; rfl
    obtain ⟨hout, hne⟩ := ho t ht
    rw [outIn_concat_return ha ht hk.balanced.nodup, outIn_concat_return ha' ht' hk'.balanced.nodup,
      List.erase_comm]
    have hmem : t ∈ (outIn (empty.record ops)).erase x := (List.mem_erase_of_ne hne).2 hout
    have hperm := ((List.perm_cons_erase hmem).map (closeUp x)).symm.trans h.out.symm
    have herase := (hperm.erase (closeUp x t)).symm
    rwa [List.map_cons, List.erase_cons_head] at herase
  cases o with
  | begin v =>
    have hnew : ((empty.run ops').begin v).2 = closeUp x ((empty.run ops).begin v).2 := by
      have he := hentry.resolve_right fun hand => by cases hand.1
      exact Answer.ticket.inj (congrArg Entry.answer he)
    have hne : ((empty.run ops).begin v).2 ≠ x := fun e => hk.not_mem_issuedIn v (e ▸ h.begun)
    show (outIn (_ ++ [(empty.run ops').entry (.begin v)])).Perm _
    rw [hk'.outIn_begin, hk.outIn_begin, hnew]
    by_cases hx : x ∈ outIn (empty.record ops)
    · rw [List.erase_append_left _ hx, List.map_append]
      exact h.out.append_right _
    · have hout := h.out
      rw [List.erase_of_not_mem hx] at hout
      rw [List.erase_of_not_mem (by simp [hx, Ne.symm hne]), List.map_append]
      exact hout.append_right _
  | complete t findings => exact hreturn t rfl rfl rfl
  | abandon t => exact hreturn t rfl rfl rfl
  | publish v findings =>
    rw [outIn_concat_other rfl rfl, outIn_concat_other rfl rfl]
    exact h.out
  | retract v =>
    rw [outIn_concat_other rfl rfl, outIn_concat_other rfl rfl]
    exact h.out

/-- **One operation on both sides.** -/
theorem step (h : Without x ops ops') (hops : Honest (ops ++ [o])) (hback : o.ticket? ≠ some x) :
    Without x (ops ++ [o]) (ops' ++ [o.rename (closeUp x)]) := by
  obtain ⟨-, ho⟩ := honest_concat_iff.1 hops
  have hk := h.honest.kept
  have hk' := h.honest'.kept
  have hout : ∀ t, o.ticket? = some t → t ∈ outIn (empty.record ops) ∧ t ≠ x :=
    fun t ht => ⟨ho t ht, fun e => hback (e ▸ ht)⟩
  obtain ⟨hentry, -⟩ := h.entry hout
  have ho' : ∀ t, (o.rename (closeUp x)).ticket? = some t → t ∈ outIn (empty.record ops') := by
    intro t' ht'
    rw [ticket?_rename] at ht'
    obtain ⟨t, ht, rfl⟩ := Option.map_eq_some_iff.1 ht'
    exact h.mem_out (hout t ht).1 (hout t ht).2
  refine ⟨hops, honest_concat_iff.2 ⟨h.honest', ho'⟩, ?_, ?_, h.out_step hout hentry, fun v => ?_,
    fun t ht hne => ?_⟩
  · rw [record_concat, issuedIn_concat]
    exact List.mem_append_left _ h.begun
  · have hanswer : ((empty.run ops').entry (o.rename (closeUp x))).answer.ticket?.toList.length =
        ((empty.run ops).entry o).answer.ticket?.toList.length := by
      rcases hentry with he | ⟨-, ha, b, he⟩
      · rw [he]
        cases ha : ((empty.run ops).entry o).answer <;>
          simp [Entry.rename, ha, Answer.rename, Answer.ticket?]
      · rw [he, ha]
        rfl
    rw [run_concat, run_concat, issued_step, issued_step, hanswer, h.issued]
    omega
  · have hnotices : ((empty.run ops').step (o.rename (closeUp x))).2.2 =
        ((empty.run ops).step o).2.2 := hentry.notices
    rw [run_concat, run_concat, issues?_step, issues?_step, hnotices, funext h.issues]
  · rw [record_concat] at ht
    rw [run_concat, run_concat]
    by_cases hissued : t ∈ issuedIn (empty.record ops)
    · -- A ticket that stays out: it is stale by now if it was or if this operation outdates it.
      have hret := (mem_outIn_iff.1 ht).2
      rw [returnedIn_concat, List.mem_append, not_or] at hret
      have hstays : t ∈ outIn (empty.record ops) := mem_outIn_iff.2 ⟨hissued, hret.1⟩
      have hother : o.ticket? ≠ some t := fun e => hret.2 (by simp [Publisher.entry, e])
      have hnum := h.number_ne hstays hne
      have hother' : (o.rename (closeUp x)).ticket? ≠ some (closeUp x t) := by
        rw [ticket?_rename]
        intro he
        obtain ⟨s, hs, hst⟩ := Option.map_eq_some_iff.1 he
        obtain ⟨hsout, hsne⟩ := hout s hs
        have hlt := closeUp_lt_iff (h.number_ne hsout hsne) hnum
        have hgt := closeUp_lt_iff hnum (h.number_ne hsout hsne)
        rw [hst] at hlt hgt
        refine hother (hs.trans (congrArg some (hk.balanced.eq_of_number hsout hstays ?_)))
        omega
      rw [Bool.eq_iff_iff, isStale_step hk'.balanced ho' (h.mem_out hstays hne) hother',
        isStale_step hk.balanced ho hstays hother, h.isStale t hstays hne,
        hentry.outdates_iff hnum fun s hs => h.number_ne (hout s hs).1 (hout s hs).2]
    · -- A new ticket is fresh on both sides.
      have hnew := (mem_outIn_iff.1 ht).1
      rw [issuedIn_concat, List.mem_append, or_iff_right hissued, Option.mem_toList] at hnew
      cases o with
      | begin v =>
        obtain rfl : ((empty.run ops).begin v).2 = t := Option.some.inj hnew
        have he := hentry.resolve_right fun hand => by cases hand.1
        have hnew' : ((empty.run ops').begin v).2 = closeUp x ((empty.run ops).begin v).2 :=
          Answer.ticket.inj (congrArg Entry.answer he)
        rw [← hnew']
        exact (hk'.balanced.isStale_new v).trans (hk.balanced.isStale_new v).symm
      | _ => cases hnew

/-- **Many operations on both sides.** -/
theorem run (h : Without x ops ops') (hops : Honest (ops ++ l))
    (hback : ∀ o ∈ l, o.ticket? ≠ some x) :
    Without x (ops ++ l) (ops' ++ l.map (Operation.rename (closeUp x))) ∧
      List.Forall₂ (SameBut x) ((empty.run ops).record l)
        ((empty.run ops').record (l.map (Operation.rename (closeUp x)))) ∧
      (x ∈ returnedIn (empty.record ops) →
        (empty.run ops').record (l.map (Operation.rename (closeUp x))) =
          ((empty.run ops).record l).map (Entry.rename (closeUp x))) := by
  induction l using List.reverseRecOn with
  | nil =>
    rw [List.map_nil, List.append_nil, List.append_nil]
    exact ⟨h, .nil, fun _ => rfl⟩
  | append_singleton l o ih =>
    rw [← List.append_assoc] at hops
    obtain ⟨hl, ho⟩ := honest_concat_iff.1 hops
    obtain ⟨hw, hsame, hexact⟩ := ih hl fun o ho => hback o (List.mem_append_left _ ho)
    have hlast := hback o (List.mem_append_right _ List.mem_cons_self)
    obtain ⟨hentry, hover⟩ := hw.entry fun t ht => ⟨ho t ht, fun e => hlast (e ▸ ht)⟩
    rw [run_append, run_append] at hentry hover
    rw [List.map_append, List.map_singleton, ← List.append_assoc, ← List.append_assoc,
      record_concat, record_concat]
    refine ⟨hw.step hops hlast, ?_, fun hx => ?_⟩
    · exact List.rel_append hsame (.cons hentry .nil)
    · have hnot : x ∉ outIn (empty.record (ops ++ l)) := by
        intro hm
        refine (mem_outIn_iff.1 hm).2 ?_
        rw [record_append, returnedIn, List.filterMap_append]
        exact List.mem_append_left _ hx
      rw [hexact hx, hover hnot, List.map_append]
      rfl

end Without

/-! ## The whole record -/

theorem Honest.of_append (h : Honest (ops ++ l)) : Honest ops := by
  intro before o after t hsplit ht
  exact h before o (after ++ l) t (by rw [hsplit, List.append_assoc]; rfl) ht

theorem mem_returnedIn (ho : o ∈ ops) (ht : o.ticket? = some t) (p : Publisher) :
    t ∈ returnedIn (p.record ops) := by
  induction ops generalizing p with
  | nil => cases ho
  | cons o' ops ih =>
    rw [record, returnedIn, List.filterMap_cons]
    rcases List.mem_cons.1 ho with rfl | ho
    · rw [show (p.entry o).operation.ticket? = some t from ht]
      exact List.mem_cons_self
    · have hrest := ih ho (p.step o').1
      cases (p.entry o').operation.ticket? with
      | none => exact hrest
      | some t' => exact List.mem_cons_of_mem _ hrest

theorem Honest.back_once (h : Honest (before ++ o :: after)) (ht : o.ticket? = some t) :
    (∀ o' ∈ before, o'.ticket? ≠ some t) ∧ ∀ o' ∈ after, o'.ticket? ≠ some t := by
  constructor
  · intro o' ho' ht'
    have hout := h before o after t rfl ht
    exact (mem_outIn_iff.1 hout).2 (mem_returnedIn ho' ht' empty)
  · intro o' ho' ht'
    obtain ⟨between, rest, rfl⟩ := List.append_of_mem ho'
    have hsplit : before ++ o :: (between ++ o' :: rest) = (before ++ o :: between) ++ o' :: rest := by
      rw [List.append_assoc, List.cons_append]
    have hout := h (before ++ o :: between) o' rest t hsplit ht'
    have hmem : o ∈ before ++ o :: between := List.mem_append_right _ List.mem_cons_self
    exact (mem_outIn_iff.1 hout).2 (mem_returnedIn hmem ht empty)

theorem exists_begin_of_issued {p : Publisher} (ht : t ∈ issuedIn (p.record ops)) :
    ∃ before u after, ops = before ++ [.begin u] ++ after ∧ ((p.run before).begin u).2 = t := by
  induction ops generalizing p with
  | nil => cases ht
  | cons o ops ih =>
    have hlater : t ∈ issuedIn ((p.step o).1.record ops) → ∃ before u after,
        o :: ops = before ++ [.begin u] ++ after ∧ ((p.run before).begin u).2 = t := by
      intro hm
      obtain ⟨before, u, after, rfl, hnew⟩ := ih hm
      exact ⟨o :: before, u, after, rfl, hnew⟩
    rw [record, issuedIn, List.filterMap_cons] at ht
    cases o with
    | begin u =>
      rcases List.mem_cons.1 ht with rfl | hm
      · exact ⟨[], u, ops, rfl, rfl⟩
      · exact hlater hm
    | _ => exact hlater ht

theorem Honest.exists_split_of_abandoned (h : Honest ops) (hx : .abandon x ∈ ops) :
    ∃ before u between after, ops = before ++ [.begin u] ++ between ++ [.abandon x] ++ after ∧
      ((empty.run before).begin u).2 = x := by
  obtain ⟨earlier, after, rfl⟩ := List.append_of_mem hx
  have hout := h earlier (.abandon x) after x rfl rfl
  obtain ⟨before, u, between, rfl, hnew⟩ := exists_begin_of_issued (mem_outIn_iff.1 hout).1
  exact ⟨before, u, between, after, List.append_cons _ _ _, hnew⟩

theorem noticesIn_append (h h' : List Entry) :
    noticesIn (h ++ h') = noticesIn h ++ noticesIn h' := List.flatMap_append

theorem noticesIn_rename (f : Ticket → Ticket) (h : List Entry) :
    noticesIn (h.map (Entry.rename f)) = noticesIn h := by
  rw [noticesIn, List.flatMap_map]
  rfl

theorem noticesIn_of_sameBut {h h' : List Entry} (hall : List.Forall₂ (SameBut x) h h') :
    noticesIn h' = noticesIn h := by
  induction hall with
  | nil => rfl
  | cons he _ ih =>
    rw [noticesIn, noticesIn, List.flatMap_cons, List.flatMap_cons, he.notices]
    exact congrArg _ ih

/-- **A run that comes to nothing leaves no trace**: without it, and with the later tickets
renumbered, the editor is told the same. Only a removal in between answers that it finds the run. -/
theorem abandoned_run_leaves_no_trace :
    (∀ ops x, Honest ops → .abandon x ∈ ops → ∃ before u between after,
      ops = before ++ [Operation.begin u] ++ between ++ [Operation.abandon x] ++ after ∧
        ((empty.run before).begin u).2 = x) ∧
    ∀ before u between after,
      let x := ((empty.run before).begin u).2
      let f := Operation.rename (closeUp x)
      Honest (before ++ [Operation.begin u] ++ between ++ [Operation.abandon x] ++ after) →
        Honest (before ++ between.map f ++ after.map f) ∧
        noticesIn (empty.record (before ++ between.map f ++ after.map f)) = noticesIn (empty.record
          (before ++ [Operation.begin u] ++ between ++ [Operation.abandon x] ++ after)) ∧
        List.Forall₂ (SameBut x) ((empty.run (before ++ [Operation.begin u])).record between)
          ((empty.run before).record (between.map f)) ∧
        (empty.run (before ++ between.map f)).record (after.map f) =
          ((empty.run (before ++ [Operation.begin u] ++ between ++
            [Operation.abandon x])).record after).map (Entry.rename (closeUp x)) ∧
        (∀ l, l <+: between → ∀ v, (empty.run (before ++ l.map f)).issues? v =
          (empty.run (before ++ [Operation.begin u] ++ l)).issues? v) ∧
        ∀ l, l <+: after → ∀ v, (empty.run (before ++ between.map f ++ l.map f)).issues? v =
          (empty.run (before ++ [Operation.begin u] ++ between ++ [Operation.abandon x] ++
            l)).issues? v := by
  refine ⟨fun ops x hops hx => hops.exists_split_of_abandoned hx, ?_⟩
  intro before u between after x f hops
  have hsplit : before ++ [.begin u] ++ between ++ [.abandon x] ++ after =
      before ++ [.begin u] ++ between ++ .abandon x :: after := (List.append_cons _ _ _).symm
  have hgiven := hops
  rw [hsplit] at hgiven
  have hback : (∀ o ∈ before ++ [.begin u] ++ between, o.ticket? ≠ some x) ∧
      ∀ o ∈ after, o.ticket? ≠ some x := hgiven.back_once rfl
  have hbetween : ∀ o ∈ between, o.ticket? ≠ some x :=
    fun o ho => hback.1 o (List.mem_append_right _ ho)
  -- The run begins, is under way, is given up, and is over.
  have hway : Honest (before ++ [.begin u] ++ between) := hgiven.of_append
  have hstart : Without x (before ++ [.begin u]) before := .start hway.of_append
  obtain ⟨hunder, hsame, -⟩ := hstart.run hway hbetween
  have hout : x ∈ outIn (empty.record (before ++ [.begin u] ++ between)) :=
    hgiven _ (.abandon x) after x rfl rfl
  have hover := hunder.abandon hout
  obtain ⟨hend, -, hexact⟩ := hover.run hops hback.2
  have hexact := hexact (mem_returnedIn (List.mem_append_right _ List.mem_cons_self) rfl empty)
  refine ⟨hend.honest', ?_, hsame, hexact, fun l hl v => ?_, fun l hl v => ?_⟩
  · -- Neither the begin nor the end of the run tells the editor anything.
    have hbegin : noticesIn ((empty.run before).record [.begin u]) = [] := rfl
    have habandon : noticesIn ((empty.run (before ++ [.begin u] ++ between)).record [.abandon x]) =
        [] := rfl
    rw [record_append, record_append, record_append, record_append, record_append,
      record_append, noticesIn_append, noticesIn_append, noticesIn_append, noticesIn_append,
      noticesIn_append, noticesIn_append, hexact, noticesIn_rename, noticesIn_of_sameBut hsame,
      hbegin, habandon, List.append_nil, List.append_nil]
  · obtain ⟨rest, rfl⟩ := hl
    rw [← List.append_assoc] at hway
    have hshort := hstart.run hway.of_append fun o ho => hbetween o (List.mem_append_left _ ho)
    exact hshort.1.issues v
  · obtain ⟨rest, rfl⟩ := hl
    rw [← List.append_assoc] at hops
    have hshort := hover.run hops.of_append fun o ho => hback.2 o (List.mem_append_left _ ho)
    exact hshort.1.issues v

/-- A run is given up while its document is removed. Without it the removal finds nothing, and the
run that begins later has another number; it is applied all the same. -/
theorem abandoned_run_in_between :
    let u : Uri := ⟨"a"⟩
    let before : List Operation := [.publish u [], .retract u]
    let between : List Operation := [.retract u, .begin u]
    let after : List Operation := [.complete ⟨u, 2⟩ []]
    let short : List Operation := [.publish u [], .retract u, .retract u, .begin u,
      .complete ⟨u, 1⟩ []]
    Honest (before ++ [.begin u] ++ between ++ [.abandon ⟨u, 1⟩] ++ after) ∧ Honest short ∧
      noticesIn (empty.record short) = [.publish u [], .clear u, .publish u []] ∧
      (empty.run short).issues? u = some [] := by
  intro u before between after short
  have hops : Honest (before ++ [.begin u] ++ between ++ [.abandon ⟨u, 1⟩] ++ after) := by decide
  have hx : ((empty.run before).begin u).2 = ⟨u, 1⟩ := by decide
  have hshort : before ++ between.map (Operation.rename (closeUp ⟨u, 1⟩)) ++
      after.map (Operation.rename (closeUp ⟨u, 1⟩)) = short := by
    decide
  have htrace := abandoned_run_leaves_no_trace.2 before u between after
  rw [hx] at htrace
  obtain ⟨hhonest, hnotices, -, -, -, hissues⟩ := htrace hops
  have hend := hissues after (List.prefix_refl _) u
  rw [hshort] at hhonest hnotices hend
  refine ⟨hops, hhonest, ?_, ?_⟩
  · rw [hnotices]
    decide
  · rw [hend]
    decide

end LintServer.Publisher
