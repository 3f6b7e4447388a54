import LintServer.Table
import Mathlib.Data.List.Nodup
import Mathlib.Algebra.BigOperators.Group.List.Basic
import Mathlib.Algebra.GroupWithZero.Nat

/-!
# Entries and totals of a table

An update touches one entry and leaves the others as they are. A quantity that is added up over the
entries therefore changes by one summand.

* `entries_perm`, `others_eq_entries`: the entry of one key, and all others;
* `Separates`: values of different keys that are not related;
* `Table.total`: a quantity of each entry, added up;
* **`total_eq_sum`**: the total over any list of keys without repetitions that has them all.
-/

namespace LintServer.Table

variable {κ α : Type} [DecidableEq κ]

theorem contains_iff (t : Table κ α) (k : κ) : t.contains k = true ↔ ∃ v, t.get? k = some v :=
  Option.isSome_iff_exists

theorem contains_eq_false_iff (t : Table κ α) (k : κ) :
    t.contains k = false ↔ t.get? k = none := by
  simp [contains]

theorem mem_values_iff (t : Table κ α) (v : α) : v ∈ t.values ↔ ∃ k, t.get? k = some v := by
  simp only [values, List.mem_map, Prod.exists, exists_eq_right, mem_entries_iff]

theorem others_eq_entries {t : Table κ α} {k : κ} (h : t.get? k = none) :
    t.others k = t.entries := by
  refine List.filter_eq_self.2 fun e he => decide_eq_true fun hk => ?_
  have hv := (t.mem_entries_iff e.1 e.2).1 he
  rw [hk, h] at hv
  cases hv

theorem erase_of_get?_eq_none {t : Table κ α} {k : κ} (h : t.get? k = none) : t.erase k = t := by
  have ho := others_eq_entries h
  cases t
  simp only [erase, Table.mk.injEq]
  exact ho

theorem eq_empty {t : Table κ α} (h : ∀ k, t.get? k = none) : t = empty := by
  have he := (t.isEmpty_iff).2 h
  cases t
  simp only [isEmpty, List.isEmpty_iff] at he
  subst he
  rfl

/-- The entry of a key stands among all others. -/
theorem entries_perm {t : Table κ α} {k : κ} {v : α} (h : t.get? k = some v) :
    t.entries.Perm ((k, v) :: t.others k) := by
  have hnd : (t.insert k v).entries.Nodup := List.Nodup.of_map _ (t.insert k v).nodup
  refine (List.perm_ext_iff_of_nodup (List.Nodup.of_map _ t.nodup) hnd).2 ?_
  rintro ⟨k', w⟩
  rw [mem_entries_iff, mem_entries_iff, get?_insert]
  by_cases hk : k' = k
  · rw [if_pos hk, hk, h]
  · rw [if_neg hk]

/-! ## Separate values -/

/-- Values of different keys are not related. -/
def Separates (t : Table κ α) (R : α → α → Prop) : Prop :=
  ∀ k k' v v', t.get? k = some v → t.get? k' = some v' → R v v' → k = k'

variable {R : α → α → Prop} {t : Table κ α} {k : κ}

theorem Separates.insert (h : t.Separates R) {v : α} (hsymm : ∀ v v', R v v' → R v' v)
    (hnew : ∀ k' v', t.get? k' = some v' → R v' v → k' = k) : (t.insert k v).Separates R := by
  intro k₁ k₂ v₁ v₂ h₁ h₂ hR
  rw [get?_insert] at h₁ h₂
  split_ifs at h₁ h₂ with hk₁ hk₂ hk₂
  · exact hk₁.trans hk₂.symm
  · cases h₁
    exact hk₁.trans (hnew k₂ v₂ h₂ (hsymm _ _ hR)).symm
  · cases h₂
    exact (hnew k₁ v₁ h₁ hR).trans hk₂.symm
  · exact h k₁ k₂ v₁ v₂ h₁ h₂ hR

theorem Separates.erase (h : t.Separates R) (k : κ) : (t.erase k).Separates R := by
  intro k₁ k₂ v₁ v₂ h₁ h₂
  rw [get?_erase] at h₁ h₂
  split_ifs at h₁ h₂
  exact h k₁ k₂ v₁ v₂ h₁ h₂

/-! ## Totals -/

/-- A quantity of the entries, added up. -/
def total (f : κ → α → Nat) (t : Table κ α) : Nat := (t.entries.map fun e => f e.1 e.2).sum

variable (f : κ → α → Nat)

theorem total_erase (t : Table κ α) (k : κ) :
    (t.erase k).total f + (t.get? k).elim 0 (f k) = t.total f := by
  cases h : t.get? k with
  | none => simp only [total, erase, others_eq_entries h, Option.elim, Nat.add_zero]
  | some v =>
    have hs := ((entries_perm h).map fun e => f e.1 e.2).sum_eq
    simp only [total, erase, Option.elim]
    rw [hs, List.map_cons, List.sum_cons, Nat.add_comm]

theorem total_insert (t : Table κ α) (k : κ) (v : α) :
    (t.insert k v).total f + (t.get? k).elim 0 (f k) = t.total f + f k v := by
  have hinsert : (t.insert k v).total f = f k v + (t.erase k).total f := rfl
  rw [hinsert, Nat.add_assoc, total_erase, Nat.add_comm]

/-- **The total over the keys.** Any list without repetitions that has all keys will do. -/
theorem total_eq_sum (t : Table κ α) {ks : List κ} (hks : ks.Nodup)
    (hall : ∀ k v, t.get? k = some v → k ∈ ks) :
    t.total f = (ks.map fun k => (t.get? k).elim 0 (f k)).sum := by
  induction ks generalizing t with
  | nil =>
    have hnone : t.entries = [] := List.eq_nil_iff_forall_not_mem.2 fun e he =>
      absurd (hall e.1 e.2 ((t.mem_entries_iff e.1 e.2).1 he)) List.not_mem_nil
    simp [total, hnone]
  | cons k ks ih =>
    rw [List.nodup_cons] at hks
    have hrest : ∀ k' v, (t.erase k).get? k' = some v → k' ∈ ks := by
      intro k' v hv
      rw [get?_erase] at hv
      split_ifs at hv with hkk
      exact (List.mem_cons.1 (hall k' v hv)).resolve_left hkk
    have hmap : ∀ k' ∈ ks, ((t.erase k).get? k').elim 0 (f k') = (t.get? k').elim 0 (f k') := by
      intro k' hk'
      rw [get?_erase, if_neg fun e : k' = k => hks.1 (e ▸ hk')]
    rw [← total_erase f t k, ih (t.erase k) hks.2 hrest, List.map_congr_left hmap, List.map_cons,
      List.sum_cons, Nat.add_comm]

end LintServer.Table
