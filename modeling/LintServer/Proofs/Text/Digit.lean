import LintServer.Text.Blank
import LintServer.Text.Digit
import Mathlib.Data.List.TakeDrop
import Mathlib.Data.List.TakeWhile
import Mathlib.Tactic.SplitIfs

/-!
# Rows of digits

A number is written by its decimal digits, without zeros in front. A row of digits ends where the
first other character stands.

* `span_append`, `span_append_cons`: where a row of characters ends;
* `isDigit_of_isAsciiDigit`, `isBlank_of_isAsciiDigit`: what the ten ASCII digits are, and are not;
* **`digitsValue_toDigits`**: digits denote the number they were made of;
* `isAsciiDigit_of_mem_toDigits`, `head?_toDigits`: the digits of a number.
-/

namespace LintServer.Text

/-! ## Rows -/

/-- A row of characters with a property ends where the first one without it stands. -/
theorem span_append {p : Char → Bool} {s t : List Char} (hs : ∀ c ∈ s, p c = true)
    (ht : ∀ c ∈ t.head?, p c = false) : (s ++ t).span p = (s, t) := by
  have htake : t.takeWhile p = [] := by
    cases t with
    | nil => rfl
    | cons c t => simp [ht c rfl]
  have hdrop : t.dropWhile p = t := by
    cases t with
    | nil => rfl
    | cons c t => simp [ht c rfl]
  rw [List.span_eq_takeWhile_dropWhile, List.takeWhile_append_of_pos hs,
    List.dropWhile_append_of_pos hs, htake, hdrop, List.append_nil]

theorem span_append_cons {c : Char} {s : List Char} (h : c ∉ s) (t : List Char) :
    (s ++ c :: t).span (· ≠ c) = (s, c :: t) := by
  refine span_append (fun d hd => decide_eq_true fun e => h (e ▸ hd)) fun d hd => ?_
  rw [← Option.some.inj hd]
  exact decide_eq_false fun hne => hne rfl

/-! ## ASCII digits -/

theorem isDigit_of_isAsciiDigit {c : Char} (h : isAsciiDigit c = true) : isDigit c = true := by
  simp only [isAsciiDigit, Bool.and_eq_true, decide_eq_true_iff, Char.le_def,
    UInt32.le_iff_toNat_le] at h
  exact inRanges_iff.2 ⟨(0x30, 0x39), List.mem_cons_self, h⟩

theorem isBlank_of_isAsciiDigit {c : Char} (h : isAsciiDigit c = true) : isBlank c = false := by
  simp only [isAsciiDigit, Bool.and_eq_true, decide_eq_true_iff, Char.le_def,
    UInt32.le_iff_toNat_le] at h
  change 48 ≤ c.toNat ∧ c.toNat ≤ 57 at h
  simp only [isBlank, Bool.or_eq_false_iff, Bool.and_eq_false_iff, decide_eq_false_iff_not,
    beq_eq_false_iff_ne]
  omega

/-! ## The digits of a number -/

theorem isAsciiDigit_digitChar : ∀ n < 10, isAsciiDigit (Nat.digitChar n) = true := by decide

theorem digitValue_digitChar : ∀ n < 10, digitValue (Nat.digitChar n) = n := by decide

theorem digitChar_eq_zero_iff : ∀ n < 10, Nat.digitChar n = '0' ↔ n = 0 := by decide

theorem toDigits_ten (n : Nat) : Nat.toDigits 10 n =
    if n < 10 then [Nat.digitChar n] else Nat.toDigits 10 (n / 10) ++ [Nat.digitChar (n % 10)] :=
  Nat.toDigits_eq_if (by decide)

theorem isAsciiDigit_of_mem_toDigits (n : Nat) : ∀ c ∈ Nat.toDigits 10 n, isAsciiDigit c = true := by
  induction n using Nat.strongRecOn with
  | ind n ih =>
    rw [toDigits_ten]
    split_ifs with h
    · exact List.forall_mem_singleton.2 (isAsciiDigit_digitChar n h)
    · refine List.forall_mem_append.2 ⟨ih _ (by omega), ?_⟩
      exact List.forall_mem_singleton.2 (isAsciiDigit_digitChar _ (by omega))

theorem digitsValue_toDigits (n : Nat) : digitsValue (Nat.toDigits 10 n) = n := by
  induction n using Nat.strongRecOn with
  | ind n ih =>
    rw [toDigits_ten]
    split_ifs with h
    · change 10 * 0 + digitValue (Nat.digitChar n) = n
      rw [digitValue_digitChar n h, Nat.zero_add]
    · rw [digitsValue_append_singleton, ih _ (by omega),
        digitValue_digitChar _ (by omega)]
      omega

theorem head?_toDigits (n : Nat) :
    ∃ c, (Nat.toDigits 10 n).head? = some c ∧ (c = '0' → n = 0) := by
  induction n using Nat.strongRecOn with
  | ind n ih =>
    rw [toDigits_ten]
    split_ifs with h
    · exact ⟨_, rfl, (digitChar_eq_zero_iff n h).1⟩
    · obtain ⟨c, hc, hzero⟩ := ih (n / 10) (by omega)
      refine ⟨c, by rw [List.head?_append, hc]; rfl, fun h0 => ?_⟩
      have := hzero h0
      omega

end LintServer.Text
