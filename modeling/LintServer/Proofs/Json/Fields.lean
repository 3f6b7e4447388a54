import LintServer.Json.Basic
import Mathlib.Data.String.Basic

/-!
# Fields of objects

Objects are built field by field. What has been put in last is found, and the order of the keys is
kept.

* `sorted_putField`, `lookup_putField`: one field;
* **`get?_ofFields`**: an object from fields in any order.
-/

namespace LintServer.Json

instance (fields : List (String × Json)) : Decidable (Sorted fields) :=
  inferInstanceAs (Decidable (fields.Pairwise fun f g => f.1 < g.1))

variable {key : String} {v : Json} {fields : List (String × Json)}

theorem fst_mem_putField {f : String × Json} (hf : f ∈ putField key v fields) :
    f.1 = key ∨ f ∈ fields := by
  induction fields with
  | nil => exact .inl (by rw [List.mem_singleton.1 hf])
  | cons g rest ih =>
    obtain ⟨k, w⟩ := g
    unfold putField at hf
    split_ifs at hf with hlt heq
    · rcases List.mem_cons.1 hf with rfl | hf
      · exact .inl rfl
      · exact .inr hf
    · rcases List.mem_cons.1 hf with rfl | hf
      · exact .inl rfl
      · exact .inr (List.mem_cons_of_mem _ hf)
    · rcases List.mem_cons.1 hf with rfl | hf
      · exact .inr List.mem_cons_self
      · exact (ih hf).imp_right (List.mem_cons_of_mem _)

theorem sorted_putField (key : String) (v : Json) (hs : Sorted fields) :
    Sorted (putField key v fields) := by
  induction fields with
  | nil => exact List.pairwise_singleton _ _
  | cons g rest ih =>
    obtain ⟨k, w⟩ := g
    obtain ⟨hk, hrest⟩ := List.pairwise_cons.1 hs
    unfold putField
    split_ifs with hlt heq
    · refine List.pairwise_cons.2 ⟨fun f hf => ?_, hs⟩
      rcases List.mem_cons.1 hf with rfl | hf
      · exact hlt
      · exact hlt.trans (hk f hf)
    · exact List.pairwise_cons.2 ⟨fun f hf => heq ▸ hk f hf, hrest⟩
    · refine List.pairwise_cons.2 ⟨fun f hf => ?_, ih hrest⟩
      rcases fst_mem_putField hf with hf | hf
      · exact hf ▸ lt_of_le_of_ne (not_lt.1 hlt) (Ne.symm heq)
      · exact hk f hf

theorem lookup_putField (key : String) (v : Json) (hs : Sorted fields) (k : String) :
    (putField key v fields).lookup k = if k = key then some v else fields.lookup k := by
  induction fields with
  | nil =>
    rw [putField, List.lookup_cons, List.lookup_nil]
    by_cases h : k = key
    · simp [h]
    · simp [h, beq_eq_false_iff_ne.2 h]
  | cons g rest ih =>
    obtain ⟨a, w⟩ := g
    have ih := ih (List.pairwise_cons.1 hs).2
    by_cases hlt : key < a
    · rw [putField, if_pos hlt]
      by_cases h : k = key
      · rw [if_pos h, h, List.lookup_cons_self]
      · rw [if_neg h, List.lookup_cons, beq_eq_false_iff_ne.2 h]
    · by_cases heq : key = a
      · rw [putField, if_neg hlt, if_pos heq, heq]
        by_cases h : k = a
        · rw [if_pos h, h, List.lookup_cons_self]
        · rw [if_neg h, List.lookup_cons, List.lookup_cons, beq_eq_false_iff_ne.2 h]
      · rw [putField, if_neg hlt, if_neg heq, List.lookup_cons, List.lookup_cons, ih]
        by_cases h : k = key
        · rw [if_pos h, if_pos h, h, beq_eq_false_iff_ne.2 heq]
        · rw [if_neg h, if_neg h]

theorem lookup_foldl_putField (hs : Sorted fields) (l : List (String × Json)) (k : String) :
    (l.foldl (fun out f => putField f.1 f.2 out) fields).lookup k =
      (l.reverse.lookup k).or (fields.lookup k) := by
  induction l generalizing fields with
  | nil => rfl
  | cons f l ih =>
    rw [List.foldl_cons, ih (sorted_putField f.1 f.2 hs), lookup_putField f.1 f.2 hs,
      List.reverse_cons, List.lookup_append, Option.or_assoc]
    obtain ⟨a, w⟩ := f
    by_cases h : k = a
    · simp [h]
    · simp [h, List.lookup_cons, beq_eq_false_iff_ne.2 h]

/-- **The last of equal keys counts.** -/
theorem get?_ofFields (l : List (String × Json)) (k : String) :
    (ofFields l).get? k = l.reverse.lookup k := by
  rw [ofFields, get?, lookup_foldl_putField List.Pairwise.nil, List.lookup_nil, Option.or_none]

end LintServer.Json
