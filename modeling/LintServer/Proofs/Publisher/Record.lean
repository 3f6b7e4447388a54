import LintServer.Proofs.Publisher.Balance
import Mathlib.Data.List.Infix

/-!
# Records of operations

What has become of a publisher, kept in full: every operation with its answer and its notices. The
publisher itself remembers far less.

* `Publisher.run`, `Publisher.record`: the state after some operations, and the record of them;
* `issuedIn`, `returnedIn`, `outIn`: the tickets of a record;
* **`Honest`**: every ticket that comes back has been issued and has not come back before; `Genuine`:
  it has been issued;
* `Operation.rename`, `Entry.rename`: the same with other tickets;
* `Kept`, **`Honest.kept`**: the bookkeeping fits the tickets that are out.
-/

namespace LintServer.Publisher

/-- An operation that has taken place, with its answer and its notices. -/
structure Entry where
  operation : Operation
  answer : Answer
  notices : List Notice
  deriving DecidableEq, Repr

/-- The publisher after some operations. -/
def run (p : Publisher) (ops : List Operation) : Publisher := ops.foldl (fun p o => (p.step o).1) p

/-- The entry of an operation. -/
def entry (p : Publisher) (o : Operation) : Entry := ⟨o, (p.step o).2.1, (p.step o).2.2⟩

/-- The record of some operations, the first one first. -/
def record (p : Publisher) : List Operation → List Entry
  | [] => []
  | o :: ops => p.entry o :: record (p.step o).1 ops

theorem run_cons (p : Publisher) (o : Operation) (ops : List Operation) :
    p.run (o :: ops) = (p.step o).1.run ops := rfl

theorem run_append (p : Publisher) (ops ops' : List Operation) :
    p.run (ops ++ ops') = (p.run ops).run ops' := List.foldl_append

theorem record_append (p : Publisher) (ops ops' : List Operation) :
    p.record (ops ++ ops') = p.record ops ++ (p.run ops).record ops' := by
  induction ops generalizing p with
  | nil => rfl
  | cons o ops ih => exact congrArg (p.entry o :: ·) (ih (p.step o).1)

theorem run_concat (p : Publisher) (ops : List Operation) (o : Operation) :
    p.run (ops ++ [o]) = ((p.run ops).step o).1 := run_append p ops [o]

theorem record_concat (p : Publisher) (ops : List Operation) (o : Operation) :
    p.record (ops ++ [o]) = p.record ops ++ [(p.run ops).entry o] := record_append p ops [o]

/-! ## Tickets of a record -/

/-- The ticket that comes back with an operation. -/
def Operation.ticket? : Operation → Option Ticket
  | complete t _ => some t
  | abandon t => some t
  | _ => none

/-- The ticket that an answer issues. -/
def Answer.ticket? : Answer → Option Ticket
  | ticket t => some t
  | _ => none

/-- The tickets that have been issued. -/
def issuedIn (h : List Entry) : List Ticket := h.filterMap fun x => x.answer.ticket?

/-- The tickets that have come back, as often as they have. -/
def returnedIn (h : List Entry) : List Ticket := h.filterMap fun x => x.operation.ticket?

/-- The tickets that have been issued and have not come back. -/
def outIn (h : List Entry) : List Ticket := (issuedIn h).filter (· ∉ returnedIn h)

/-- **Every ticket that comes back has been issued and has not come back before.** -/
def Honest (ops : List Operation) : Prop :=
  ∀ before o after t, ops = before ++ o :: after → o.ticket? = some t →
    t ∈ outIn (empty.record before)

/-- Every ticket that comes back has been issued; it may have come back before. -/
def Genuine (ops : List Operation) : Prop :=
  ∀ before o after, ops = before ++ o :: after → ∀ t, o.ticket? = some t →
    t ∈ issuedIn (empty.record before)

/-! ### Other tickets -/

/-- The same operation with other tickets. -/
def Operation.rename (f : Ticket → Ticket) : Operation → Operation
  | complete t findings => complete (f t) findings
  | abandon t => abandon (f t)
  | o => o

/-- The same answer with other tickets. -/
def Answer.rename (f : Ticket → Ticket) : Answer → Answer
  | ticket t => ticket (f t)
  | a => a

/-- The same entry with other tickets. -/
def Entry.rename (f : Ticket → Ticket) (x : Entry) : Entry :=
  ⟨x.operation.rename f, x.answer.rename f, x.notices⟩

theorem ticket?_rename (f : Ticket → Ticket) (o : Operation) :
    (o.rename f).ticket? = o.ticket?.map f := by
  cases o <;> rfl

/-! ### What holds at every place of a list -/

section Split

variable {α : Type} {P : List α → α → Prop} {l : List α} {a : α}

theorem forall_split_concat_iff :
    (∀ before x after, l ++ [a] = before ++ x :: after → P before x) ↔
      (∀ before x after, l = before ++ x :: after → P before x) ∧ P l a := by
  constructor
  · intro hall
    refine ⟨fun before x after he => ?_, hall l a [] rfl⟩
    exact hall before x (after ++ [a]) (by rw [he, List.append_assoc]; rfl)
  · rintro ⟨hl, ha⟩ before x after he
    rcases List.eq_nil_or_concat' after with rfl | ⟨after', y, rfl⟩
    · obtain ⟨rfl, hone⟩ := List.append_inj' he rfl
      cases hone
      exact ha
    · rw [← List.cons_append, ← List.append_assoc] at he
      exact hl before x after' (List.append_inj' he rfl).1

theorem exists_split_concat_iff :
    (∃ before x after, l ++ [a] = before ++ x :: after ∧ P before x) ↔
      (∃ before x after, l = before ++ x :: after ∧ P before x) ∨ P l a := by
  rw [← not_iff_not]
  simpa only [not_or, not_exists, not_and] using
    forall_split_concat_iff (P := fun before x => ¬ P before x)

theorem forall_split_iff_forall_lt :
    (∀ before x after, l = before ++ x :: after → P before x) ↔
      ∀ i < l.length, ∀ x ∈ l[i]?, P (l.take i) x := by
  constructor
  · intro hl i hi x hx
    obtain ⟨_, rfl⟩ := List.getElem?_eq_some_iff.1 hx
    refine hl (l.take i) l[i] (l.drop (i + 1)) ?_
    rw [List.getElem_cons_drop, List.take_append_drop]
  · rintro hall before x after rfl
    have hx := hall before.length (by simp) x (by simp)
    rwa [List.take_left] at hx

end Split

variable {h : List Entry} {x : Entry} {t : Ticket} {ops : List Operation} {o : Operation}

theorem honest_iff_forall_split : Honest ops ↔ ∀ before o after, ops = before ++ o :: after →
    ∀ t ∈ o.ticket?, t ∈ outIn (empty.record before) :=
  ⟨fun hops before o after he t ht => hops before o after t he ht,
    fun hops before o after t he ht => hops before o after he t ht⟩

theorem honest_concat_iff :
    Honest (ops ++ [o]) ↔ Honest ops ∧ ∀ t, o.ticket? = some t → t ∈ outIn (empty.record ops) := by
  rw [honest_iff_forall_split, honest_iff_forall_split]
  exact forall_split_concat_iff

theorem honest_iff_forall_lt : Honest ops ↔ ∀ i < ops.length, ∀ o ∈ ops[i]?, ∀ t ∈ o.ticket?,
    t ∈ outIn (empty.record (ops.take i)) :=
  honest_iff_forall_split.trans forall_split_iff_forall_lt

instance : DecidablePred Honest := fun _ => decidable_of_iff' _ honest_iff_forall_lt

theorem genuine_iff_forall_lt : Genuine ops ↔ ∀ i < ops.length, ∀ o ∈ ops[i]?, ∀ t ∈ o.ticket?,
    t ∈ issuedIn (empty.record (ops.take i)) :=
  forall_split_iff_forall_lt

instance : DecidablePred Genuine := fun _ => decidable_of_iff' _ genuine_iff_forall_lt

theorem mem_outIn_iff : t ∈ outIn h ↔ t ∈ issuedIn h ∧ t ∉ returnedIn h := by
  simp [outIn]

theorem issuedIn_concat (h : List Entry) (x : Entry) :
    issuedIn (h ++ [x]) = issuedIn h ++ x.answer.ticket?.toList := by
  rw [issuedIn, issuedIn, List.filterMap_append]
  cases hx : x.answer.ticket? <;> simp [hx]

theorem returnedIn_concat (h : List Entry) (x : Entry) :
    returnedIn (h ++ [x]) = returnedIn h ++ x.operation.ticket?.toList := by
  rw [returnedIn, returnedIn, List.filterMap_append]
  cases hx : x.operation.ticket? <;> simp [hx]

theorem outIn_concat_issue (ha : x.answer.ticket? = some t) (ho : x.operation.ticket? = none)
    (ht : t ∉ returnedIn h) : outIn (h ++ [x]) = outIn h ++ [t] := by
  rw [outIn, issuedIn_concat, returnedIn_concat, ha, ho, outIn]
  simp [ht]

theorem outIn_concat_return (ha : x.answer.ticket? = none) (ho : x.operation.ticket? = some t)
    (hnd : (outIn h).Nodup) : outIn (h ++ [x]) = (outIn h).erase t := by
  rw [hnd.erase_eq_filter, outIn, issuedIn_concat, returnedIn_concat, ha, ho, outIn,
    List.filter_filter, Option.toList_none, List.append_nil]
  refine List.filter_congr fun a _ => ?_
  by_cases e : a = t <;> simp [e]

theorem outIn_concat_other (ha : x.answer.ticket? = none) (ho : x.operation.ticket? = none) :
    outIn (h ++ [x]) = outIn h := by
  rw [outIn, issuedIn_concat, returnedIn_concat, ha, ho, outIn]
  simp

/-! ## Bookkeeping -/

/-- **What a publisher and its record have in common.** -/
structure Kept (p : Publisher) (h : List Entry) : Prop where
  balanced : p.Balanced (outIn h)
  number_le : ∀ t ∈ issuedIn h, t.number ≤ p.issued
  issued_of_returned : ∀ t ∈ returnedIn h, t ∈ issuedIn h

theorem kept_empty : Kept empty [] := ⟨balanced_empty, by simp [issuedIn], by simp [returnedIn]⟩

variable {p : Publisher}

theorem issued_step (p : Publisher) (o : Operation) :
    (p.step o).1.issued = p.issued + (p.entry o).answer.ticket?.toList.length := by
  cases o with
  | begin u => rfl
  | complete t findings =>
    cases hs : p.isStale t with
    | true => simp [entry, step, complete_of_stale hs, Answer.ticket?]
    | false => simp [entry, step, complete_of_fresh hs, accept, Answer.ticket?]
  | abandon t => exact retire_issued p t.uri
  | publish u findings => exact invalidate_issued p u
  | retract u => exact invalidate_issued p u

theorem issued_le_step (p : Publisher) (o : Operation) : p.issued ≤ (p.step o).1.issued := by
  rw [issued_step]
  exact Nat.le_add_right _ _

namespace Kept

theorem not_mem_issuedIn (hk : Kept p h) (u : Uri) : (p.begin u).2 ∉ issuedIn h := by
  intro hm
  have := hk.number_le _ hm
  simp only [Publisher.begin] at this
  omega

theorem step_begin (hk : Kept p h) (u : Uri) :
    Kept (p.begin u).1 (h ++ [p.entry (.begin u)]) where
  balanced := by
    have hret : (p.begin u).2 ∉ returnedIn h :=
      fun hm => hk.not_mem_issuedIn u (hk.issued_of_returned _ hm)
    rw [outIn_concat_issue rfl rfl hret]
    exact (hk.balanced.begin u).perm (List.perm_append_singleton _ _).symm
  number_le t ht := by
    rw [issuedIn_concat] at ht
    rcases List.mem_append.1 ht with ht | ht
    · exact Nat.le_succ_of_le (hk.number_le t ht)
    · obtain rfl : t = (p.begin u).2 := by simpa [entry, step, Answer.ticket?] using ht
      exact Nat.le_refl _
  issued_of_returned t ht := by
    rw [issuedIn_concat]
    rw [returnedIn_concat] at ht
    exact List.mem_append_left _ (hk.issued_of_returned t (by simpa [entry, Operation.ticket?] using ht))

theorem step_return (hk : Kept p h) (ht : t ∈ outIn h) (ho : o.ticket? = some t)
    (ha : (p.entry o).answer.ticket? = none) (hb : (p.step o).1.Balanced ((outIn h).erase t)) :
    Kept (p.step o).1 (h ++ [p.entry o]) where
  balanced := by rwa [outIn_concat_return ha ho hk.balanced.nodup]
  number_le t' ht' := by
    rw [issuedIn_concat, ha, Option.toList, List.append_nil] at ht'
    exact (hk.number_le t' ht').trans (issued_le_step p o)
  issued_of_returned t' ht' := by
    rw [issuedIn_concat, ha, Option.toList, List.append_nil]
    rw [returnedIn_concat, show (p.entry o).operation.ticket? = some t from ho] at ht'
    rcases List.mem_append.1 ht' with ht' | ht'
    · exact hk.issued_of_returned t' ht'
    · rw [List.mem_singleton.1 ht']
      exact (mem_outIn_iff.1 ht).1

theorem step_other (hk : Kept p h) (ho : o.ticket? = none)
    (ha : (p.entry o).answer.ticket? = none) (hb : (p.step o).1.Balanced (outIn h)) :
    Kept (p.step o).1 (h ++ [p.entry o]) where
  balanced := by rwa [outIn_concat_other ha ho]
  number_le t ht := by
    rw [issuedIn_concat, ha, Option.toList, List.append_nil] at ht
    exact (hk.number_le t ht).trans (issued_le_step p o)
  issued_of_returned t ht := by
    rw [issuedIn_concat, ha, Option.toList, List.append_nil]
    rw [returnedIn_concat, show (p.entry o).operation.ticket? = none from ho, Option.toList,
      List.append_nil] at ht
    exact hk.issued_of_returned t ht

theorem step (hk : Kept p h) (ho : ∀ t, o.ticket? = some t → t ∈ outIn h) :
    Kept (p.step o).1 (h ++ [p.entry o]) := by
  cases o with
  | begin u => exact hk.step_begin u
  | complete t findings =>
    exact hk.step_return (ho t rfl) rfl rfl (hk.balanced.complete (ho t rfl) findings)
  | abandon t => exact hk.step_return (ho t rfl) rfl rfl (hk.balanced.retire (ho t rfl))
  | publish u findings => exact hk.step_other rfl rfl (hk.balanced.publish u findings)
  | retract u => exact hk.step_other rfl rfl (hk.balanced.retract u)

end Kept

/-- **The bookkeeping fits the tickets that are out**, whatever has been done, if every ticket comes
back at most once. -/
theorem Honest.kept (h : Honest ops) : Kept (empty.run ops) (empty.record ops) := by
  induction ops using List.reverseRecOn with
  | nil => exact kept_empty
  | append_singleton ops o ih =>
    obtain ⟨hops, ho⟩ := honest_concat_iff.1 h
    rw [run_concat, record_concat]
    exact (ih hops).step ho

end LintServer.Publisher
