import LintServer.Proofs.Publisher.Mirror
import LintServer.Proofs.Publisher.Staleness

/-!
# Documents apart

All documents draw the numbers of their tickets from one counter, and what makes the tickets of a
document stale is set to that counter. Numbers are only ever compared within one document, though, so
what is done about other documents makes no difference: a document fares as if it were alone.

* `place`: the number that a ticket has if only its own document is counted;
* `alone`: the operations on one document, with these numbers;
* `Alike`, `Alike.step`: two publishers that do the same with a document and its tickets;
* `Alike.other`: an operation on another document goes unnoticed;
* **`documents_apart`**: the operations on a document have the same answers and notices alone.
-/

namespace LintServer.Publisher

variable {p q : Publisher} {u v : Uri} {t t' : Ticket} {o : Operation} {f : Ticket → Ticket}
  {known : List Ticket} {ops before after : List Operation}

/-! ## What an operation does to another document -/

/-- One publisher holds the same about a document as another one. -/
def SameAbout (u : Uri) (p q : Publisher) : Prop :=
  p.issues? u = q.issues? u ∧ p.outstanding.get? u = q.outstanding.get? u ∧
    p.staleUpTo.get? u = q.staleUpTo.get? u

theorem sameAbout_retire (p : Publisher) (h : u ≠ v) : SameAbout u (p.retire v) p := by
  refine ⟨issues?_retire p v u, ?_⟩
  cases hn : p.outstanding.get? v with
  | none =>
    rw [retire_of_none hn]
    exact ⟨rfl, rfl⟩
  | some n =>
    rw [outstanding_retire hn, staleUpTo_retire hn, if_neg h, if_neg fun hand => h hand.1]
    exact ⟨rfl, rfl⟩

theorem sameAbout_invalidate (p : Publisher) (h : u ≠ v) : SameAbout u (p.invalidate v) p := by
  unfold invalidate
  split_ifs
  · exact ⟨rfl, rfl, by rw [Table.get?_insert, if_neg h]⟩
  · exact ⟨rfl, rfl, rfl⟩

/-- **An operation leaves other documents alone.** -/
theorem sameAbout_step (p : Publisher) (h : o.uri ≠ u) : SameAbout u (p.step o).1 p := by
  have hne : u ≠ o.uri := Ne.symm h
  cases o with
  | begin v => exact ⟨rfl, (Table.get?_insert _ _ _ _).trans (if_neg hne), rfl⟩
  | complete t findings =>
    show SameAbout u (p.complete t findings).1 p
    cases hs : p.isStale t with
    | true =>
      rw [complete_of_stale hs]
      exact sameAbout_retire p hne
    | false =>
      rw [complete_of_fresh hs]
      obtain ⟨hi, hout, hstale⟩ := sameAbout_retire (p.accept t findings) hne
      refine ⟨hi.trans ?_, hout, hstale.trans ?_⟩
      · rw [issues?_accept]
        exact if_neg hne
      · exact (Table.get?_insert _ _ _ _).trans (if_neg hne)
  | abandon t => exact sameAbout_retire p hne
  | publish v findings =>
    obtain ⟨_, hout, hstale⟩ := sameAbout_invalidate p hne
    exact ⟨(issues?_publish p v findings u).trans (if_neg hne), hout, hstale⟩
  | retract v =>
    obtain ⟨_, hout, hstale⟩ := sameAbout_invalidate p hne
    exact ⟨(issues?_retract p v u).trans (if_neg hne), hout, hstale⟩

/-! ## Two publishers that do the same with a document -/

/-- Two publishers do the same with a document and with the tickets of it that are known; `f` tells
which ticket of the second one stands for a ticket of the first one. -/
structure Alike (f : Ticket → Ticket) (u : Uri) (known : List Ticket) (p q : Publisher) : Prop where
  issues : q.issues? u = p.issues? u
  outstanding : q.outstanding.get? u = p.outstanding.get? u
  isStale : ∀ t ∈ known, t.uri = u → q.isStale (f t) = p.isStale t
  number_le : ∀ t ∈ known, t.uri = u → t.number ≤ p.issued ∧ (f t).number ≤ q.issued
  stale_le : ∀ n, p.staleUpTo.get? u = some n → n ≤ p.issued
  stale_le' : ∀ n, q.staleUpTo.get? u = some n → n ≤ q.issued

/-- A renaming keeps the documents of tickets, and the order of the known ones of a document. -/
structure Orders (f : Ticket → Ticket) (u : Uri) (known : List Ticket) : Prop where
  uri : ∀ t, (f t).uri = t.uri
  le_iff : ∀ t ∈ known, ∀ t' ∈ known, t.uri = u → t'.uri = u →
    ((f t).number ≤ (f t').number ↔ t.number ≤ t'.number)

namespace Alike

theorem of_sameAbout {p' q' : Publisher} (h : Alike f u known p q) (hf : Orders f u known)
    (hp : SameAbout u p' p) (hq : SameAbout u q' q) (hpn : p.issued ≤ p'.issued)
    (hqn : q.issued ≤ q'.issued) : Alike f u known p' q' where
  issues := by rw [hp.1, hq.1, h.issues]
  outstanding := by rw [hp.2.1, hq.2.1, h.outstanding]
  isStale t ht hu := by
    have hpt : p'.isStale t = p.isStale t := isStale_congr (by rw [hu, hp.2.2])
    have hqt : q'.isStale (f t) = q.isStale (f t) := isStale_congr (by rw [hf.uri, hu, hq.2.2])
    rw [hpt, hqt, h.isStale t ht hu]
  number_le t ht hu :=
    ⟨(h.number_le t ht hu).1.trans hpn, (h.number_le t ht hu).2.trans hqn⟩
  stale_le n hn := (h.stale_le n (hp.2.2 ▸ hn)).trans hpn
  stale_le' n hn := (h.stale_le' n (hq.2.2 ▸ hn)).trans hqn

theorem track (h : Alike f u known p q) {b b' : Board} (hb : b'.get? u = b.get? u) :
    Alike f u known { p with tracked := b } { q with tracked := b' } where
  issues := hb
  outstanding := h.outstanding
  isStale := h.isStale
  number_le := h.number_le
  stale_le := h.stale_le
  stale_le' := h.stale_le'

theorem mark (h : Alike f u known p q) (hf : Orders f u known) {n n' : Nat} (hn : n ≤ p.issued)
    (hn' : n' ≤ q.issued)
    (hle : ∀ t ∈ known, t.uri = u → ((f t).number ≤ n' ↔ t.number ≤ n)) :
    Alike f u known { p with staleUpTo := p.staleUpTo.insert u n }
      { q with staleUpTo := q.staleUpTo.insert u n' } where
  issues := h.issues
  outstanding := h.outstanding
  isStale t ht hu := by
    have huf : (f t).uri = u := (hf.uri t).trans hu
    rw [Bool.eq_iff_iff, isStale_iff, isStale_iff]
    simp only [Table.get?_insert, hu, huf, if_true, Option.some.injEq, exists_eq_left']
    exact hle t ht hu
  number_le := h.number_le
  stale_le m hm := by
    rw [Table.get?_insert, if_pos rfl] at hm
    exact Option.some.inj hm ▸ hn
  stale_le' m hm := by
    rw [Table.get?_insert, if_pos rfl] at hm
    exact Option.some.inj hm ▸ hn'

theorem retire (h : Alike f u known p q) (hf : Orders f u known) :
    Alike f u known (p.retire u) (q.retire u) := by
  cases hn : p.outstanding.get? u with
  | none => rwa [retire_of_none hn, retire_of_none (h.outstanding.trans hn)]
  | some n =>
    have hn' : q.outstanding.get? u = some n := h.outstanding.trans hn
    have hold : ∀ {r : Publisher} {m : Nat}, r.outstanding.get? u = some n →
        (r.retire u).staleUpTo.get? u = some m → r.staleUpTo.get? u = some m := by
      intro r m hr hm
      rw [staleUpTo_retire hr] at hm
      split_ifs at hm
      exact hm
    refine ⟨?_, ?_, fun t ht hu => ?_, fun t ht hu => ?_, fun m hm => ?_, fun m hm => ?_⟩
    · rw [issues?_retire, issues?_retire, h.issues]
    · rw [outstanding_retire hn, outstanding_retire hn', h.outstanding]
    · have huf : (f t).uri = u := (hf.uri t).trans hu
      by_cases h1 : n ≤ 1
      · -- The last ticket comes back: nothing is stale any more.
        have hnone : ∀ {r : Publisher} {t : Ticket}, r.outstanding.get? u = some n → t.uri = u →
            (r.retire u).isStale t = false := by
          intro r t hr ht
          unfold Publisher.isStale
          rw [staleUpTo_retire hr, if_pos ⟨ht, h1⟩]
        rw [hnone hn hu, hnone hn' huf]
      · have hsame : ∀ {r : Publisher} {t : Ticket}, r.outstanding.get? u = some n →
            (r.retire u).isStale t = r.isStale t := by
          intro r t hr
          refine isStale_congr ?_
          rw [staleUpTo_retire hr, if_neg fun hand => h1 hand.2]
        rw [hsame hn, hsame hn', h.isStale t ht hu]
    · rw [retire_issued, retire_issued]
      exact h.number_le t ht hu
    · rw [retire_issued]
      exact h.stale_le m (hold hn hm)
    · rw [retire_issued]
      exact h.stale_le' m (hold hn' hm)

theorem contains_eq (h : Alike f u known p q) :
    q.outstanding.contains u = p.outstanding.contains u := by
  rw [Table.contains, h.outstanding, Table.contains]

theorem invalidate (h : Alike f u known p q) (hf : Orders f u known) :
    Alike f u known (p.invalidate u) (q.invalidate u) := by
  unfold Publisher.invalidate
  rw [h.contains_eq]
  split_ifs
  · -- Every known ticket is older than the counters.
    refine h.mark hf (Nat.le_refl _) (Nat.le_refl _) fun t ht hu => ?_
    obtain ⟨hle, hle'⟩ := h.number_le t ht hu
    exact iff_of_true hle' hle
  · exact h

theorem begin (h : Alike f u known p q) (hnew : f (p.begin u).2 = (q.begin u).2) :
    Alike f u (known ++ [(p.begin u).2]) (p.begin u).1 (q.begin u).1 := by
  have hfresh : ∀ {r : Publisher}, (∀ n, r.staleUpTo.get? u = some n → n ≤ r.issued) →
      (r.begin u).1.isStale (r.begin u).2 = false := by
    intro r hr
    refine Bool.eq_false_iff.2 fun hs => ?_
    obtain ⟨n, hn, hle⟩ := isStale_iff.1 hs
    have := hr n hn
    simp only [Publisher.begin] at hle
    omega
  refine ⟨h.issues, ?_, fun t ht hu => ?_, fun t ht hu => ?_, fun n hn => ?_, fun n hn => ?_⟩
  · simp only [Publisher.begin, outstandingOf, h.outstanding, Table.get?_insert]
  · rcases List.mem_append.1 ht with ht | ht
    · exact h.isStale t ht hu
    · rw [List.mem_singleton.1 ht, hnew, hfresh h.stale_le, hfresh h.stale_le']
  · rcases List.mem_append.1 ht with ht | ht
    · obtain ⟨hle, hle'⟩ := h.number_le t ht hu
      exact ⟨Nat.le_succ_of_le hle, Nat.le_succ_of_le hle'⟩
    · rw [List.mem_singleton.1 ht, hnew]
      exact ⟨Nat.le_refl _, Nat.le_refl _⟩
  · exact Nat.le_succ_of_le (h.stale_le n hn)
  · exact Nat.le_succ_of_le (h.stale_le' n hn)

theorem accept (h : Alike f u known p q) (hf : Orders f u known) (ht : t ∈ known) (hu : t.uri = u)
    (findings : List Finding) : Alike f u known (p.accept t findings) (q.accept (f t) findings) := by
  obtain ⟨hle, hle'⟩ := h.number_le t ht hu
  have huf : (f t).uri = u := (hf.uri t).trans hu
  have hmark := h.mark hf hle hle' fun t' ht' hu' => hf.le_iff t' ht' t ht hu' hu
  unfold Publisher.accept
  rw [hu, huf]
  exact hmark.track (by simp)

/-- **An operation on the document** has the same answer and the same notices on both sides. -/
theorem step (h : Alike f u known p q) (hf : Orders f u known) (hu : o.uri = u)
    (ho : ∀ t, o.ticket? = some t → t ∈ known)
    (hnew : o = .begin u → f (p.begin u).2 = (q.begin u).2) :
    q.entry (o.rename f) = (p.entry o).rename f ∧
      Alike f u (known ++ (p.entry o).answer.ticket?.toList) (p.step o).1 (q.step (o.rename f)).1 := by
  cases o with
  | begin v =>
    obtain rfl : v = u := hu
    refine ⟨?_, h.begin (hnew rfl)⟩
    show Entry.mk _ (.ticket (q.begin v).2) [] = Entry.mk _ (.ticket (f (p.begin v).2)) []
    rw [hnew rfl]
    rfl
  | complete t findings =>
    have ht := ho t rfl
    have hstale := h.isStale t ht hu
    have huf : (f t).uri = u := (hf.uri t).trans hu
    have hu : t.uri = u := hu
    simp only [entry, Operation.rename, Publisher.step, Entry.rename, Answer.rename,
      Answer.ticket?, Option.toList_none, List.append_nil]
    cases hs : p.isStale t with
    | true =>
      rw [complete_of_stale hs, complete_of_stale (hstale.trans hs), hu, huf]
      exact ⟨rfl, h.retire hf⟩
    | false =>
      rw [complete_of_fresh hs, complete_of_fresh (hstale.trans hs), hu, huf]
      exact ⟨rfl, (h.accept hf ht hu findings).retire hf⟩
  | abandon t =>
    have huf : (f t).uri = u := (hf.uri t).trans hu
    have hu : t.uri = u := hu
    simp only [entry, Operation.rename, Publisher.step, Entry.rename, Answer.rename,
      Answer.ticket?, Option.toList_none, List.append_nil, Publisher.abandon, hu, huf]
    exact ⟨trivial, h.retire hf⟩
  | publish v findings =>
    obtain rfl : v = u := hu
    refine ⟨rfl, ?_⟩
    rw [show (p.entry (.publish v findings)).answer.ticket?.toList = [] from rfl, List.append_nil]
    exact (h.invalidate hf).track (by simp)
  | retract v =>
    obtain rfl : v = u := hu
    have htracked : q.tracked.contains v = p.tracked.contains v := congrArg Option.isSome h.issues
    refine ⟨?_, ?_⟩
    · simp only [entry, Operation.rename, Publisher.step, Publisher.retract, Entry.rename,
        Answer.rename, htracked, h.contains_eq]
    · rw [show (p.entry (.retract v)).answer.ticket?.toList = [] from rfl, List.append_nil]
      exact (h.invalidate hf).track (by simp)

/-- An operation on another document goes unnoticed, whatever ticket it issues. -/
theorem other (h : Alike f u known p q) (hf : Orders f u known) (hu : o.uri ≠ u) :
    Alike f u (known ++ (p.entry o).answer.ticket?.toList) (p.step o).1 q := by
  have h' : Alike f u known (p.step o).1 q :=
    h.of_sameAbout hf (sameAbout_step p hu) ⟨rfl, rfl, rfl⟩ (issued_le_step p o) (Nat.le_refl _)
  have hold : ∀ t ∈ known ++ (p.entry o).answer.ticket?.toList, t.uri = u → t ∈ known := by
    intro t ht htu
    refine (List.mem_append.1 ht).resolve_right fun hnew => hu ?_
    rw [Option.mem_toList] at hnew
    cases o with
    | begin v =>
      cases hnew
      exact htu
    | _ => cases hnew
  exact ⟨h'.issues, h'.outstanding, fun t ht htu => h'.isStale t (hold t ht htu) htu,
    fun t ht htu => h'.number_le t (hold t ht htu) htu, h'.stale_le, h'.stale_le'⟩

end Alike

/-! ## The numbers of a document's own tickets -/

/-- The number that a ticket has if only the tickets of its document are counted. -/
def place (h : List Entry) (t : Ticket) : Ticket :=
  ⟨t.uri, (issuedIn h).countP fun t' => t'.uri = t.uri ∧ t'.number ≤ t.number⟩

/-- The operations on a document, with other tickets. -/
def alone (f : Ticket → Ticket) (u : Uri) (ops : List Operation) : List Operation :=
  (ops.filter fun o => o.uri = u).map (Operation.rename f)

theorem alone_concat (f : Ticket → Ticket) (u : Uri) (ops : List Operation) (o : Operation) :
    alone f u (ops ++ [o]) = alone f u ops ++ if o.uri = u then [o.rename f] else [] := by
  rw [alone, List.filter_append, List.map_append, List.filter_singleton, Bool.cond_decide]
  split_ifs <;> rfl

theorem orders_place (h : List Entry) (u : Uri) : Orders (place h) u (issuedIn h) where
  uri _ := rfl
  le_iff t ht t' ht' hu hu' := by
    have hmono : ∀ {a b : Ticket}, a.uri = u → b.uri = u → a.number ≤ b.number →
        (place h a).number ≤ (place h b).number := by
      intro a b ha hb hle
      refine List.countP_mono_left fun s _ hs => ?_
      simp only [ha, hb, decide_eq_true_eq] at hs ⊢
      exact ⟨hs.1, hs.2.trans hle⟩
    refine ⟨fun hle => ?_, hmono hu hu'⟩
    by_contra hlt
    -- The later ticket is counted among those up to itself, and not up to the earlier one.
    have hsplit := List.countP_eq_countP_filter_add (issuedIn h)
      (fun s => decide (s.uri = t.uri ∧ s.number ≤ t.number))
      (fun s => decide (s.uri = t'.uri ∧ s.number ≤ t'.number))
    have hsame : (place h t').number ≤ ((issuedIn h).filter fun s =>
        decide (s.uri = t'.uri ∧ s.number ≤ t'.number)).countP
          fun s => decide (s.uri = t.uri ∧ s.number ≤ t.number) := by
      rw [List.countP_filter]
      refine List.countP_mono_left fun s _ hs => ?_
      simp only [hu, hu', decide_eq_true_eq, Bool.and_eq_true] at hs ⊢
      exact ⟨⟨hs.1, by omega⟩, hs⟩
    have hpos : 0 < ((issuedIn h).filter fun s =>
        !decide (s.uri = t'.uri ∧ s.number ≤ t'.number)).countP
          fun s => decide (s.uri = t.uri ∧ s.number ≤ t.number) := by
      refine List.countP_pos_iff.2 ⟨t, List.mem_filter.2 ⟨ht, ?_⟩, by simp⟩
      simp [hlt]
    have hle : (place h t).number ≤ (place h t').number := hle
    simp only [place] at hle hsame
    omega

theorem Orders.mono {known' : List Ticket} (hf : Orders f u known) (hsub : known' ⊆ known) :
    Orders f u known' :=
  ⟨hf.uri, fun t ht t' ht' => hf.le_iff t (hsub ht) t' (hsub ht')⟩

theorem place_new (hops : ops = before ++ .begin u :: after) :
    place (empty.record ops) ((empty.run before).begin u).2 =
      ⟨u, (issuedIn (empty.record before)).countP (·.uri = u) + 1⟩ := by
  obtain ⟨hpair, -⟩ := issuedIn_pairwise ops
  obtain ⟨-, hle⟩ := issuedIn_pairwise before
  have hissued : issuedIn (empty.record ops) = issuedIn (empty.record before) ++
      ((empty.run before).begin u).2 ::
        issuedIn (((empty.run before).begin u).1.record after) := by
    rw [hops, record_append, issuedIn, List.filterMap_append]
    rfl
  rw [hissued, List.pairwise_append, List.pairwise_cons] at hpair
  -- All earlier tickets of the document are counted, and none of the later ones.
  have hold : ∀ t ∈ issuedIn (empty.record before),
      t.number ≤ ((empty.run before).begin u).2.number :=
    fun t ht => Nat.le_succ_of_le (hle t ht)
  have hlater := hpair.2.1.1
  have huri : ((empty.run before).begin u).2.uri = u := rfl
  rw [place, hissued]
  generalize ((empty.run before).begin u).2 = new at *
  have hbefore : (issuedIn (empty.record before)).countP
      (fun t => decide (t.uri = new.uri ∧ t.number ≤ new.number)) =
        (issuedIn (empty.record before)).countP (·.uri = u) :=
    List.countP_congr fun t ht => by simp [hold t ht, huri]
  have hafter : (issuedIn (((empty.run before).begin u).1.record after)).countP
      (fun t => decide (t.uri = new.uri ∧ t.number ≤ new.number)) = 0 := by
    refine List.countP_eq_zero.2 fun t ht hcounted => ?_
    have hlt := hlater t ht
    have hge := (of_decide_eq_true hcounted).2
    omega
  rw [List.countP_append, List.countP_cons, hbefore, hafter, huri]
  simp

/-! ## Runs -/

theorem uri_of_new (ht : (p.entry o).answer.ticket? = some t) : t.uri = o.uri := by
  cases o with
  | begin v =>
    cases ht
    rfl
  | _ => cases ht

/-- **The run of one document alone**, after any part of the operations. -/
theorem alike_run (hops : Genuine ops) (u : Uri) (hpre : before <+: ops) :
    let f := place (empty.record ops)
    Alike f u (issuedIn (empty.record before)) (empty.run before) (empty.run (alone f u before)) ∧
      (empty.run (alone f u before)).issued =
        (issuedIn (empty.record before)).countP (·.uri = u) ∧
      empty.record (alone f u before) =
        ((empty.record before).filter fun x => x.operation.uri = u).map (Entry.rename f) := by
  intro f
  induction before using List.reverseRecOn with
  | nil =>
    refine ⟨⟨rfl, rfl, ?_, ?_, ?_, ?_⟩, rfl, rfl⟩
    · intro t ht
      exact absurd ht List.not_mem_nil
    · intro t ht
      exact absurd ht List.not_mem_nil
    · intro n hn
      cases hn
    · intro n hn
      cases hn
  | append_singleton before o ih =>
    obtain ⟨halike, hissued, hrecord⟩ := ih ((List.prefix_append before [o]).trans hpre)
    obtain ⟨after, hafter⟩ := hpre
    have hsplit : ops = before ++ o :: after := by
      rw [← hafter, List.append_assoc, List.singleton_append]
    have hknown : ∀ t, o.ticket? = some t → t ∈ issuedIn (empty.record before) :=
      hops before o after hsplit
    have hf : Orders f u (issuedIn (empty.record before)) := by
      refine (orders_place (empty.record ops) u).mono fun t ht => ?_
      rw [hsplit, record_append, issuedIn, List.filterMap_append]
      exact List.mem_append_left _ ht
    rw [run_concat, record_concat, alone_concat, issuedIn_concat, List.countP_append,
      List.filter_append, List.map_append, List.filter_singleton, Bool.cond_decide, ← hrecord,
      ← hissued]
    by_cases hu : o.uri = u
    · have hnew : o = .begin u →
          f ((empty.run before).begin u).2 = ((empty.run (alone f u before)).begin u).2 := by
        rintro rfl
        rw [show f = place (empty.record ops) from rfl, place_new hsplit, ← hissued]
        rfl
      obtain ⟨hentry, hstep⟩ := halike.step hf hu hknown hnew
      rw [if_pos hu, run_concat, record_concat, hentry, issued_step, hentry]
      refine ⟨hstep, ?_, ?_⟩
      · -- The counter of the document's own run goes up with the document's own tickets.
        cases hans : ((empty.run before).entry o).answer with
        | ticket t =>
          have ht : t.uri = u := (uri_of_new (congrArg Answer.ticket? hans)).trans hu
          simp [Entry.rename, hans, Answer.rename, Answer.ticket?, ht]
        | truth b => simp [Entry.rename, hans, Answer.rename, Answer.ticket?]
        | done => simp [Entry.rename, hans, Answer.rename, Answer.ticket?]
      · rw [if_pos (show ((empty.run before).entry o).operation.uri = u from hu)]
        rfl
    · rw [if_neg hu, List.append_nil]
      refine ⟨halike.other hf hu, ?_, ?_⟩
      · cases hans : ((empty.run before).entry o).answer.ticket? with
        | none => rfl
        | some t =>
          have ht : t.uri ≠ u := fun e => hu ((uri_of_new hans).symm.trans e)
          simp [ht]
      · rw [if_neg (show ¬ ((empty.run before).entry o).operation.uri = u from hu)]
        exact (List.append_nil _).symm

/-- **Documents fare apart from each other**: the operations on one of them, done alone, have the
same answers, notices and issues, with tickets numbered by their place in the document. -/
theorem documents_apart (hops : Genuine ops) (u : Uri) :
    let f := place (empty.record ops)
    empty.record (alone f u ops) =
        ((empty.record ops).filter fun x => x.operation.uri = u).map (Entry.rename f) ∧
      ∀ before after, ops = before ++ after →
        (empty.run (alone f u before)).issues? u = (empty.run before).issues? u := by
  intro f
  refine ⟨(alike_run hops u (List.prefix_refl ops)).2.2, fun before after hsplit => ?_⟩
  exact (alike_run hops u ⟨after, hsplit.symm⟩).1.issues

/-- A ticket of the second document comes back twice. It is applied the second time, since the
document's bookkeeping has gone with its last ticket. -/
theorem second_document_alone :
    let a : Uri := ⟨"a"⟩
    let b : Uri := ⟨"b"⟩
    let ops : List Operation := [.begin a, .begin b, .retract a, .begin b, .complete ⟨a, 1⟩ [],
      .complete ⟨b, 3⟩ [], .complete ⟨b, 2⟩ [], .complete ⟨b, 2⟩ []]
    let own : List Operation := [.begin b, .begin b, .complete ⟨b, 2⟩ [], .complete ⟨b, 1⟩ [],
      .complete ⟨b, 1⟩ []]
    Genuine ops ∧ alone (place (empty.record ops)) b ops = own ∧
      (empty.record own).map Entry.answer =
        [.ticket ⟨b, 1⟩, .ticket ⟨b, 2⟩, .truth true, .truth false, .truth true] ∧
      (empty.run own).issues? b = some [] := by
  intro a b ops own
  have hops : Genuine ops := by decide
  have hown : alone (place (empty.record ops)) b ops = own := by decide
  obtain ⟨hrecord, hissues⟩ := documents_apart hops b
  rw [hown] at hrecord
  have hend := hissues ops [] (List.append_nil ops).symm
  rw [hown] at hend
  have hissues : (empty.run ops).issues? b = some [] := by decide
  refine ⟨hops, hown, ?_, hend.trans hissues⟩
  rw [hrecord]
  decide

end LintServer.Publisher
