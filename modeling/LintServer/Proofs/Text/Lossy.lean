import LintServer.Text.Utf8
import Mathlib.Tactic.SplitIfs

/-!
# Reading UTF-8 line by line

A line end is no tail byte, so it ends whatever is unfinished in front of it and is read as itself;
and no other bytes are read as a line end, since a character that has been opened never turns out to
be an ASCII one. What is invalid is therefore invalid within its line.

* `Unfinished.Proper`, `step_proper`: what may be unfinished;
* `scan_append_lineFeed`: what stands in front of a line end is read on its own;
* **`splitOn_decodeLossy`**: the lines of a text are the texts of the lines.
-/

namespace LintServer.Text.Utf8

variable {b : UInt8} {bs xs ys : List UInt8} {u : Option Unfinished} {v : Unfinished}

/-! ## What may be unfinished -/

/-- Only a tail byte may follow, and the character will not be an ASCII one: some bits have been
read, or the next byte must bring some and is not the last. -/
structure Unfinished.Proper (v : Unfinished) : Prop where
  tail : 0x80 ≤ v.low.toNat
  bits : 0 < v.bits ∨ 1 < v.missing ∧ 0x80 < v.low.toNat

theorem proper_of_lead (h : lead b = .opens v) : v.Proper := by
  simp only [lead] at h
  split_ifs at h
  all_goals
    cases h
    constructor <;> simp <;> omega

theorem eq_of_ofNat_eq_lineFeed {n : Nat} (h : Char.ofNat n = '\n') : n = 10 := by
  by_cases hn : n.isValidChar
  · rw [Char.ofNat, dif_pos hn] at h
    exact congrArg Char.toNat h
  · rw [Char.ofNat, dif_neg hn] at h
    exact absurd (congrArg Char.toNat h) (by decide)

theorem lead_ne_lineFeed (hb : b ≠ 0x0A) : lead b ≠ .char '\n' := by
  intro h
  simp only [lead] at h
  split_ifs at h with h1
  exact hb (UInt8.toNat_inj.1 (eq_of_ofNat_eq_lineFeed (Lead.char.inj h)))

theorem stepFresh_proper (hb : b ≠ 0x0A) :
    some '\n' ∉ (stepFresh b).1 ∧ ∀ v ∈ (stepFresh b).2, v.Proper := by
  unfold stepFresh
  cases h : lead b with
  | char c =>
    refine ⟨fun hc => lead_ne_lineFeed hb ?_, nofun⟩
    rw [h, ← Option.some.inj (List.mem_singleton.1 hc)]
  | opens v =>
    refine ⟨List.not_mem_nil, fun v' hv' => ?_⟩
    cases hv'
    exact proper_of_lead h
  | invalid => exact ⟨by simp, nofun⟩

/-- A byte that is no line end is not read as one. -/
theorem step_proper (hu : ∀ v ∈ u, v.Proper) (hb : b ≠ 0x0A) :
    some '\n' ∉ (step u b).1 ∧ ∀ v ∈ (step u b).2, v.Proper := by
  cases u with
  | none => exact stepFresh_proper hb
  | some v =>
    obtain ⟨-, hbits⟩ := hu v rfl
    rw [step]
    by_cases hrange : (v.low ≤ b && b ≤ v.high) = true
    · rw [if_pos hrange]
      simp only [Bool.and_eq_true, decide_eq_true_iff, UInt8.le_iff_toNat_le] at hrange
      by_cases hlast : v.missing ≤ 1
      · simp only [if_pos hlast]
        refine ⟨fun hc => ?_, nofun⟩
        have h10 := eq_of_ofNat_eq_lineFeed (Option.some.inj (List.mem_singleton.1 hc)).symm
        omega
      · have hnext : 0 < v.bits * 64 + (b.toNat - 0x80) := by omega
        simp only [if_neg hlast]
        refine ⟨List.not_mem_nil, fun v' hv' => ?_⟩
        cases hv'
        exact ⟨Nat.le_refl _, .inl hnext⟩
    · rw [if_neg hrange]
      obtain ⟨hnot, hproper⟩ := stepFresh_proper hb
      exact ⟨by simpa using hnot, hproper⟩

/-! ## Line ends -/

theorem scanFrom_eq (u : Option Unfinished) (bs : List UInt8) (done : List (Option Char)) :
    scanFrom u bs done = done.reverse ++ scanFrom u bs [] := by
  induction bs generalizing u done with
  | nil => cases u <;> simp [scanFrom]
  | cons b bs ih =>
    cases u <;> rw [scanFrom, ih, scanFrom, ih _ (List.reverseAux _ [])] <;> simp

theorem scanFrom_cons (u : Option Unfinished) (b : UInt8) (bs : List UInt8) :
    scanFrom u (b :: bs) [] = (step u b).1 ++ scanFrom (step u b).2 bs [] := by
  cases u <;> rw [scanFrom, scanFrom_eq] <;> simp

theorem scanFrom_lineFeed (hu : ∀ v ∈ u, v.Proper) (ys : List UInt8) :
    scanFrom u (0x0A :: ys) [] = scanFrom u [] [] ++ some '\n' :: scan ys := by
  cases u with
  | none => exact scanFrom_cons _ _ _
  | some v =>
    have hlow := (hu v rfl).tail
    have hrange : ¬ (v.low ≤ 0x0A && (0x0A : UInt8) ≤ v.high) = true := by
      simp only [Bool.and_eq_true, decide_eq_true_iff, UInt8.le_iff_toNat_le]
      exact fun h => absurd (Nat.le_trans hlow h.1) (by decide)
    rw [scanFrom_cons, step, if_neg hrange]
    rfl

theorem scanFrom_append_lineFeed (hu : ∀ v ∈ u, v.Proper) (hxs : 0x0A ∉ xs) (ys : List UInt8) :
    scanFrom u (xs ++ 0x0A :: ys) [] = scanFrom u xs [] ++ some '\n' :: scan ys := by
  induction xs generalizing u with
  | nil => exact scanFrom_lineFeed hu ys
  | cons b xs ih =>
    have hb := (List.ne_of_not_mem_cons hxs).symm
    have hxs := List.not_mem_of_not_mem_cons hxs
    rw [List.cons_append, scanFrom_cons, scanFrom_cons, ih (step_proper hu hb).2 hxs,
      List.append_assoc]

/-- What stands in front of a line end is read on its own. -/
theorem scan_append_lineFeed (hxs : 0x0A ∉ xs) (ys : List UInt8) :
    scan (xs ++ 0x0A :: ys) = scan xs ++ some '\n' :: scan ys :=
  scanFrom_append_lineFeed (u := none) (fun _ hv => nomatch hv) hxs ys

theorem lineFeed_notMem_scanFrom (hu : ∀ v ∈ u, v.Proper) (hbs : 0x0A ∉ bs) :
    some '\n' ∉ scanFrom u bs [] := by
  induction bs generalizing u with
  | nil => cases u <;> simp [scanFrom]
  | cons b bs ih =>
    have hb := (List.ne_of_not_mem_cons hbs).symm
    have hbs := List.not_mem_of_not_mem_cons hbs
    obtain ⟨hnot, hproper⟩ := step_proper hu hb
    rw [scanFrom_cons, List.mem_append, not_or]
    exact ⟨hnot, ih hproper hbs⟩

/-! ## Texts -/

theorem decodeLossy_append_lineFeed (hxs : 0x0A ∉ xs) (ys : List UInt8) :
    decodeLossy (xs ++ 0x0A :: ys) = decodeLossy xs ++ '\n' :: decodeLossy ys := by
  rw [decodeLossy, scan_append_lineFeed hxs, List.map_append]
  rfl

theorem lineFeed_notMem_decodeLossy (hbs : 0x0A ∉ bs) : '\n' ∉ decodeLossy bs := by
  intro hc
  obtain ⟨c, hc, heq⟩ := List.mem_map.1 hc
  cases c with
  | none => exact absurd heq (by decide)
  | some c =>
    obtain rfl : c = '\n' := heq
    exact lineFeed_notMem_scanFrom (u := none) (fun _ hv => nomatch hv) hbs hc

/-- **The lines of a text are the texts of the lines.** -/
theorem splitOn_decodeLossy (bs : List UInt8) :
    (decodeLossy bs).splitOn '\n' = (bs.splitOn 0x0A).map decodeLossy := by
  induction hn : bs.length using Nat.strongRecOn generalizing bs with
  | ind n ih =>
    -- What stands in front of the first line end is read on its own, and is one line.
    by_cases hbs : 0x0A ∈ bs
    · obtain ⟨xs, ys, rfl, hxs⟩ := List.eq_append_cons_of_mem hbs
      have hlt : ys.length < n := by
        rw [← hn, List.length_append, List.length_cons]
        omega
      rw [decodeLossy_append_lineFeed hxs,
        List.splitOn_append_cons_self_of_not_mem (lineFeed_notMem_decodeLossy hxs),
        List.splitOn_append_cons_self_of_not_mem hxs, List.map_cons, ih _ hlt ys rfl]
    · rw [List.splitOn_eq_singleton hbs, List.splitOn_eq_singleton (lineFeed_notMem_decodeLossy hbs),
        List.map_singleton]

end LintServer.Text.Utf8
