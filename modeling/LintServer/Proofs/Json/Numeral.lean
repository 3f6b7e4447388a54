import LintServer.Json.Numeral
import LintServer.Proofs.Text.Digit
import Mathlib.Algebra.Group.Int.Defs

/-!
# Reading whole numbers that have been written

A whole number is written by its decimal digits, without zeros in front. What follows must not
extend the numeral: after a whole number no digit, no point and no exponent mark may come.

* `Ends`: a text that extends no numeral;
* **`Numeral.read?_toString`**, `Numeral.value?_ofInt`: a whole number of 64 bits is read back.
-/

namespace LintServer.Json

open Text (isAsciiDigit head?_toDigits isAsciiDigit_of_mem_toDigits digitsValue_toDigits)

/-- A text that extends no numeral in front of it. -/
def Ends (rest : List Char) : Prop :=
  ∀ c ∈ rest.head?, isAsciiDigit c = false ∧ c ≠ '.' ∧ c ≠ 'e' ∧ c ≠ 'E'

variable {rest : List Char}

theorem ends_nil : Ends [] := nofun

theorem ends_cons {c : Char} (hc : isAsciiDigit c = false ∧ c ≠ '.' ∧ c ≠ 'e' ∧ c ≠ 'E') :
    Ends (c :: rest) := by
  intro c' hc'
  rwa [← Option.some.inj hc']

namespace Numeral

theorem readDigits?_append {ds : List Char} (hds : ∀ c ∈ ds, isAsciiDigit c = true) (hne : ds ≠ [])
    (h : Ends rest) : readDigits? (ds ++ rest) = some (ds, rest) := by
  rw [readDigits?, Text.span_append hds fun c hc => (h c hc).1]
  exact if_neg (by simpa using hne)

theorem readPlaces?_of_ends (h : Ends rest) : readPlaces? rest = some (none, rest) := by
  unfold readPlaces?
  split
  · exact absurd rfl (h '.' rfl).2.1
  · rfl

theorem readPower?_of_ends (h : Ends rest) : readPower? rest = some (none, rest) := by
  unfold readPower?
  split
  · exact absurd rfl (h 'e' rfl).2.2.1
  · exact absurd rfl (h 'E' rfl).2.2.2
  · rfl

theorem readUnsigned?_toDigits (negative : Bool) (n : Nat) (h : Ends rest) :
    readUnsigned? negative (Nat.toDigits 10 n ++ rest) =
      some (⟨negative, Nat.toDigits 10 n, none, none⟩, rest) := by
  obtain ⟨c, hc, hzero⟩ := head?_toDigits n
  have hok : wholeOk (Nat.toDigits 10 n) = true := by
    rw [wholeOk, hc]
    by_cases h0 : c = '0'
    · rw [hzero h0, h0]
      rfl
    · simp [h0]
  simp [readUnsigned?, readDigits?_append (isAsciiDigit_of_mem_toDigits n) Nat.toDigits_ne_nil h, hok,
    readPlaces?_of_ends h, readPower?_of_ends h]

/-- The numeral that a whole number is written by. -/
def ofInt (z : Int) : Numeral := ⟨z < 0, Nat.toDigits 10 z.natAbs, none, none⟩

theorem toList_toString (z : Int) :
    (toString z).toList = (if z < 0 then ['-'] else []) ++ Nat.toDigits 10 z.natAbs := by
  cases z with
  | ofNat n => rw [if_neg (by simp)]; exact String.toList_ofList
  | negSucc n =>
    rw [if_pos (Int.negSucc_lt_zero n)]
    exact String.toList_append.trans (congrArg _ String.toList_ofList)

/-- **A whole number that has been written is read back**, if what follows does not extend it. -/
theorem read?_toString (z : Int) (h : Ends rest) :
    read? ((toString z).toList ++ rest) = some (ofInt z, rest) := by
  rw [toList_toString, ofInt]
  by_cases hz : z < 0
  · rw [if_pos hz, decide_eq_true hz]
    exact readUnsigned?_toDigits true _ h
  · rw [if_neg hz, decide_eq_false hz, List.nil_append]
    unfold read?
    split
    · rename_i hminus
      obtain ⟨c, hc, _⟩ := head?_toDigits z.natAbs
      have hdigit := isAsciiDigit_of_mem_toDigits z.natAbs c (List.mem_of_mem_head? hc)
      have hhead := congrArg List.head? hminus
      rw [List.head?_append, hc] at hhead
      rw [Option.some.inj hhead] at hdigit
      cases hdigit
    · exact readUnsigned?_toDigits false _ h

/-- A whole number of 64 bits has its numeral's value. -/
theorem value?_ofInt {z : Int} (hlow : -(2 ^ 63) ≤ z) (hhigh : z < 2 ^ 64) :
    (ofInt z).value? = some (.int z) := by
  have hwhole : ((ofInt z).places.isNone && (ofInt z).power.isNone) = true := rfl
  unfold value?
  rw [if_pos hwhole]
  unfold ofInt
  by_cases hz : z < 0
  · have hle : z.natAbs ≤ UInt64.size / 2 := by
      change z.natAbs ≤ 2 ^ 63
      omega
    have hsucc : z.natAbs = z.natAbs - 1 + 1 := by omega
    simp only [decide_eq_true hz, if_true, Text.digitsWithin?_eq, digitsValue_toDigits, if_pos hle]
    rw [hsucc]
    change some (Number.int (-(((z.natAbs - 1 : Nat) : Int) + 1))) = _
    congr 2
    omega
  · have hle : z.natAbs ≤ limit := by
      change z.natAbs ≤ 2 ^ 64 - 1
      omega
    simp only [decide_eq_false hz, Bool.false_eq_true, if_false, Text.digitsWithin?_eq,
      digitsValue_toDigits, if_pos hle]
    congr 2
    omega

end Numeral

end LintServer.Json
