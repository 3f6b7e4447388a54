/-!
# Finite tables

A table holds at most one value per key. The entry written last stands first, so that a table is
also a record of which key was touched most recently.

* `Table.get?`, `Table.insert`, `Table.erase`, `Table.contains`;
* **`get?_insert`**, **`get?_erase`**: what an update does to every key;
* `mem_entries_iff`: the entries are exactly the pairs that `get?` finds.
-/

namespace LintServer

/-- A finite map: pairs of a key and a value, no key twice. -/
structure Table (κ α : Type) where
  entries : List (κ × α)
  nodup : (entries.map Prod.fst).Nodup

namespace Table

variable {κ α : Type} [DecidableEq κ]

/-- The table without entries. -/
def empty : Table κ α := ⟨[], by simp⟩

instance : Inhabited (Table κ α) := ⟨empty⟩

instance [DecidableEq α] : DecidableEq (Table κ α) := fun s t =>
  if h : s.entries = t.entries then
    .isTrue (by cases s; cases t; simp_all)
  else
    .isFalse fun e => h (e ▸ rfl)

/-- The value at a key. -/
def get? (t : Table κ α) (k : κ) : Option α := t.entries.lookup k

/-- Whether a key has a value. -/
def contains (t : Table κ α) (k : κ) : Bool := (t.get? k).isSome

/-- The entries of all keys but one. -/
def others (t : Table κ α) (k : κ) : List (κ × α) := t.entries.filter fun e => e.1 ≠ k

theorem nodup_others (t : Table κ α) (k : κ) : ((t.others k).map Prod.fst).Nodup :=
  t.nodup.sublist (List.filter_sublist.map _)

/-- Removes a key. -/
def erase (t : Table κ α) (k : κ) : Table κ α := ⟨t.others k, t.nodup_others k⟩

/-- Sets the value at a key, replacing the one it had. -/
def insert (t : Table κ α) (k : κ) (v : α) : Table κ α :=
  ⟨(k, v) :: t.others k, by
    refine List.nodup_cons.2 ⟨?_, t.nodup_others k⟩
    simp [others]⟩

/-- The keys that have a value. -/
def keys (t : Table κ α) : List κ := t.entries.map Prod.fst

/-- The values. -/
def values (t : Table κ α) : List α := t.entries.map Prod.snd

/-- Whether no key has a value. -/
def isEmpty (t : Table κ α) : Bool := t.entries.isEmpty

/-! ## What the operations do to a key -/

@[simp] theorem get?_empty (k : κ) : (empty : Table κ α).get? k = none := rfl

theorem lookup_filter_ne (l : List (κ × α)) (k k' : κ) :
    (l.filter fun e => e.1 ≠ k).lookup k' = if k' = k then none else l.lookup k' := by
  induction l with
  | nil => simp
  | cons e l ih =>
    obtain ⟨a, v⟩ := e
    by_cases h : a = k
    · subst h
      by_cases h' : k' = a
      · simpa [h'] using ih
      · have hb : (k' == a) = false := beq_eq_false_iff_ne.2 h'
        simpa [List.lookup_cons, hb, h'] using ih
    · by_cases h' : k' = a
      · subst h'
        simp [h]
      · have hb : (k' == a) = false := beq_eq_false_iff_ne.2 h'
        simpa [List.lookup_cons, hb, h] using ih

@[simp] theorem get?_erase (t : Table κ α) (k k' : κ) :
    (t.erase k).get? k' = if k' = k then none else t.get? k' :=
  lookup_filter_ne t.entries k k'

@[simp] theorem get?_insert (t : Table κ α) (k k' : κ) (v : α) :
    (t.insert k v).get? k' = if k' = k then some v else t.get? k' := by
  by_cases h : k' = k
  · subst h
    simp [get?, insert]
  · have hb : (k' == k) = false := beq_eq_false_iff_ne.2 h
    simp only [get?, insert, List.lookup_cons, hb, if_neg h]
    exact (lookup_filter_ne t.entries k k').trans (if_neg h)

theorem lookup_eq_some_iff {l : List (κ × α)} (h : (l.map Prod.fst).Nodup) (k : κ) (v : α) :
    l.lookup k = some v ↔ (k, v) ∈ l := by
  induction l with
  | nil => simp
  | cons e l ih =>
    obtain ⟨a, w⟩ := e
    simp only [List.map_cons, List.nodup_cons] at h
    by_cases hk : k = a
    · subst hk
      have hnot : (k, v) ∉ l := fun hm => h.1 (List.mem_map.2 ⟨_, hm, rfl⟩)
      simp [hnot, eq_comm]
    · have hb : (k == a) = false := beq_eq_false_iff_ne.2 hk
      simp [List.lookup_cons, hb, ih h.2, hk]

/-- The entries are exactly the pairs that `get?` finds. -/
theorem mem_entries_iff (t : Table κ α) (k : κ) (v : α) :
    (k, v) ∈ t.entries ↔ t.get? k = some v :=
  (lookup_eq_some_iff t.nodup k v).symm

theorem isEmpty_iff (t : Table κ α) : t.isEmpty = true ↔ ∀ k, t.get? k = none := by
  constructor
  · intro h k
    have : t.entries = [] := by simpa [isEmpty] using h
    simp [get?, this]
  · intro h
    rcases he : t.entries with _ | ⟨⟨k, v⟩, l⟩
    · simp [isEmpty, he]
    · have : t.get? k = some v := (t.mem_entries_iff k v).1 (by simp [he])
      simp [h k] at this

end Table

end LintServer
