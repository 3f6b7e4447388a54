import LintServer.Path
import Mathlib.Data.List.Infix

/-!
# Joined paths

The components of a path below another one are those of both, one after the other; an absolute path
below another one is itself.

* `segments_append`: a separator keeps two texts apart;
* `join_of_absolute`, `isAbsolute_join`: what is joined;
* **`components_join`**: the components of a joined path;
* `Path.Below`, `below_join`: a path with the components of a directory in front.
-/

namespace LintServer.Path

variable {p q : Path}

/-! ## Segments -/

theorem segments_ne_nil (s : List Char) : segments s ≠ [] := by
  cases s with
  | nil => exact List.cons_ne_nil _ _
  | cons c s =>
    rw [segments, List.foldr_cons]
    split_ifs
    · exact List.cons_ne_nil _ _
    · split <;> exact List.cons_ne_nil _ _

theorem segments_cons {s part : List Char} {parts : List (List Char)}
    (hs : segments s = part :: parts) (c : Char) :
    segments (c :: s) = if c = '/' then [] :: part :: parts else (c :: part) :: parts := by
  rw [segments, List.foldr_cons, ← segments, hs]

theorem segments_append (s t : List Char) : segments (s ++ '/' :: t) = segments s ++ segments t := by
  induction s with
  | nil => rfl
  | cons c s ih =>
    obtain ⟨part, parts, hs⟩ := List.exists_cons_of_ne_nil (segments_ne_nil s)
    rw [hs] at ih
    rw [List.cons_append, segments_cons ih, segments_cons hs]
    split_ifs <;> rfl

/-! ## Joining -/

/-- An absolute path replaces the one it is joined to. -/
theorem join_of_absolute (h : q.isAbsolute = true) : p.join q = q := if_pos h

theorem toList_join (hp : p.text.isEmpty = false) (hq : q.isAbsolute = false) :
    ∃ s, (p.text.toList = s ∨ p.text.toList = s ++ ['/']) ∧
      (p.join q).text.toList = s ++ '/' :: q.text.toList := by
  rw [join, if_neg (by rw [hq]; exact Bool.false_ne_true), hp, Bool.false_or]
  by_cases hend : p.text.toList.getLast? = some '/'
  · obtain ⟨s, hs⟩ := List.getLast?_eq_some_iff.1 hend
    refine ⟨s, .inr hs, ?_⟩
    rw [if_pos (decide_eq_true hend), String.toList_append, hs, List.append_assoc]
    rfl
  · refine ⟨p.text.toList, .inl rfl, ?_⟩
    rw [if_neg (by simpa using hend), String.toList_append, String.toList_append, List.append_assoc]
    rfl

/-- The components of a joined path are those of both. -/
theorem components_join (hp : p.text.isEmpty = false) (hq : q.isAbsolute = false) :
    (p.join q).components = p.components ++ q.components := by
  obtain ⟨s, hs, hjoin⟩ := toList_join hp hq
  have hp : p.components = (segments s).filter counts := by
    rw [components]
    rcases hs with hs | hs
    · rw [hs]
    · rw [hs, segments_append, List.filter_append]
      exact List.append_nil _
  rw [hp, components, hjoin, segments_append, List.filter_append, components]

theorem isAbsolute_iff : p.isAbsolute = true ↔ ∃ s, p.text.toList = '/' :: s := by
  rw [isAbsolute, decide_eq_true_iff, List.head?_eq_some_iff]

theorem isEmpty_of_absolute (h : p.isAbsolute = true) : p.text.isEmpty = false := by
  obtain ⟨s, hs⟩ := isAbsolute_iff.1 h
  refine Bool.eq_false_iff.2 fun hempty => ?_
  rw [String.isEmpty_iff.1 hempty] at hs
  cases hs

theorem isAbsolute_join (hp : p.isAbsolute = true) : (p.join q).isAbsolute = true := by
  cases hq : q.isAbsolute with
  | true => rw [join_of_absolute hq, hq]
  | false =>
    obtain ⟨s, hs⟩ := isAbsolute_iff.1 hp
    rw [join, if_neg (by rw [hq]; exact Bool.false_ne_true)]
    split_ifs
    · exact isAbsolute_iff.2 ⟨s ++ q.text.toList, by rw [String.toList_append, hs]; rfl⟩
    · exact isAbsolute_iff.2 ⟨s ++ '/' :: q.text.toList, by
        rw [String.toList_append, String.toList_append, hs, List.append_assoc]; rfl⟩

/-! ## Below a directory -/

/-- An absolute path whose components begin with those of a directory. -/
structure Below (dir p : Path) : Prop where
  absolute : p.isAbsolute = true
  components : dir.components <+: p.components

theorem below_self (h : p.isAbsolute = true) : Below p p := ⟨h, List.prefix_rfl⟩

theorem below_join (hp : p.isAbsolute = true) (hq : q.isAbsolute = false) : Below p (p.join q) :=
  ⟨isAbsolute_join hp, components_join (isEmpty_of_absolute hp) hq ▸ List.prefix_append _ _⟩

end LintServer.Path
