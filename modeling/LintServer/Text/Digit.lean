import LintServer.Text.Ranges

/-!
# Decimal digits

The characters with the Unicode general category Nd, and the reading of numbers written with the
ten ASCII digits.

* `isDigit`: any decimal digit; `isAsciiDigit`: one of `0` to `9`;
* `readNat?`: the value of a non-empty row of ASCII digits;
* `readWithin?`: the same up to a limit, without computing more than the limit;
* `readWithin?_eq_some_iff`: the limit is all that tells the two apart.
-/

namespace LintServer.Text

/-- The decimal digits of all scripts, as ranges of code points. -/
def digitRanges : List (Nat × Nat) := [
    (0x30, 0x39), (0x660, 0x669), (0x6F0, 0x6F9), (0x7C0, 0x7C9), (0x966, 0x96F), (0x9E6, 0x9EF),
    (0xA66, 0xA6F), (0xAE6, 0xAEF), (0xB66, 0xB6F), (0xBE6, 0xBEF), (0xC66, 0xC6F), (0xCE6, 0xCEF),
    (0xD66, 0xD6F), (0xDE6, 0xDEF), (0xE50, 0xE59), (0xED0, 0xED9), (0xF20, 0xF29),
    (0x1040, 0x1049), (0x1090, 0x1099), (0x17E0, 0x17E9), (0x1810, 0x1819), (0x1946, 0x194F),
    (0x19D0, 0x19D9), (0x1A80, 0x1A89), (0x1A90, 0x1A99), (0x1B50, 0x1B59), (0x1BB0, 0x1BB9),
    (0x1C40, 0x1C49), (0x1C50, 0x1C59), (0xA620, 0xA629), (0xA8D0, 0xA8D9), (0xA900, 0xA909),
    (0xA9D0, 0xA9D9), (0xA9F0, 0xA9F9), (0xAA50, 0xAA59), (0xABF0, 0xABF9), (0xFF10, 0xFF19),
    (0x104A0, 0x104A9), (0x10D30, 0x10D39), (0x10D40, 0x10D49), (0x11066, 0x1106F),
    (0x110F0, 0x110F9), (0x11136, 0x1113F), (0x111D0, 0x111D9), (0x112F0, 0x112F9),
    (0x11450, 0x11459), (0x114D0, 0x114D9), (0x11650, 0x11659), (0x116C0, 0x116C9),
    (0x116D0, 0x116E3), (0x11730, 0x11739), (0x118E0, 0x118E9), (0x11950, 0x11959),
    (0x11BF0, 0x11BF9), (0x11C50, 0x11C59), (0x11D50, 0x11D59), (0x11DA0, 0x11DA9),
    (0x11F50, 0x11F59), (0x16130, 0x16139), (0x16A60, 0x16A69), (0x16AC0, 0x16AC9),
    (0x16B50, 0x16B59), (0x16D70, 0x16D79), (0x1CCF0, 0x1CCF9), (0x1D7CE, 0x1D7FF),
    (0x1E140, 0x1E149), (0x1E2F0, 0x1E2F9), (0x1E4F0, 0x1E4F9), (0x1E5F1, 0x1E5FA),
    (0x1E950, 0x1E959), (0x1FBF0, 0x1FBF9)]

/-- One of `0` to `9`. -/
def isAsciiDigit (c : Char) : Bool := '0' ≤ c && c ≤ '9'

/-- A decimal digit of any script. -/
def isDigit (c : Char) : Bool := inRanges digitRanges c

/-- The value of an ASCII digit. -/
def digitValue (c : Char) : Nat := c.toNat - 48

/-- The value of a row of ASCII digits, read from the left after what has been read so far. -/
def digitsValue (cs : List Char) : Nat := cs.foldl (fun n c => 10 * n + digitValue c) 0

/-- The number that a non-empty row of ASCII digits denotes. -/
def readNat? (cs : List Char) : Option Nat :=
  if !cs.isEmpty && cs.all isAsciiDigit then some (digitsValue cs) else none

/-- Reads one more digit of a number that must not exceed a limit. -/
def pushDigit? (limit n : Nat) (c : Char) : Option Nat :=
  if 10 * n + digitValue c ≤ limit then some (10 * n + digitValue c) else none

/-- The value of a row of ASCII digits, unless it exceeds a limit. -/
def digitsWithin? (limit : Nat) (cs : List Char) : Option Nat :=
  cs.foldl (fun n c => n.bind fun n => pushDigit? limit n c) (some 0)

/-- The number that a non-empty row of ASCII digits denotes, unless it exceeds a limit. -/
def readWithin? (limit : Nat) (cs : List Char) : Option Nat :=
  if !cs.isEmpty && cs.all isAsciiDigit then digitsWithin? limit cs else none

theorem foldl_pushDigit_none (limit : Nat) (cs : List Char) :
    cs.foldl (fun n c => n.bind fun n => pushDigit? limit n c) none = none := by
  induction cs with
  | nil => rfl
  | cons c cs ih => exact ih

theorem le_foldl_digits (cs : List Char) (n : Nat) :
    n ≤ cs.foldl (fun n c => 10 * n + digitValue c) n := by
  induction cs generalizing n with
  | nil => exact Nat.le_refl n
  | cons c cs ih =>
    have := ih (10 * n + digitValue c)
    simp only [List.foldl_cons]
    omega

theorem foldl_pushDigit_some (limit : Nat) (cs : List Char) (n : Nat) (h : n ≤ limit) :
    cs.foldl (fun n c => n.bind fun n => pushDigit? limit n c) (some n) =
      if cs.foldl (fun n c => 10 * n + digitValue c) n ≤ limit then
        some (cs.foldl (fun n c => 10 * n + digitValue c) n)
      else none := by
  induction cs generalizing n with
  | nil => simp [h]
  | cons c cs ih =>
    rw [List.foldl_cons, List.foldl_cons, Option.bind_some]
    by_cases hc : 10 * n + digitValue c ≤ limit
    · rw [pushDigit?, if_pos hc]
      exact ih _ hc
    · have hl := le_foldl_digits cs (10 * n + digitValue c)
      rw [pushDigit?, if_neg hc, foldl_pushDigit_none, if_neg (by omega)]

/-- Within the limit a row of digits has its value, and beyond it none. -/
theorem digitsWithin?_eq (limit : Nat) (cs : List Char) :
    digitsWithin? limit cs = if digitsValue cs ≤ limit then some (digitsValue cs) else none :=
  foldl_pushDigit_some limit cs 0 (Nat.zero_le _)

theorem readWithin?_eq_some_iff {limit n : Nat} {ds : List Char} :
    readWithin? limit ds = some n ↔ readNat? ds = some n ∧ n ≤ limit := by
  rw [readWithin?, readNat?, digitsWithin?_eq]
  split
  · split
    · exact ⟨fun h => ⟨h, Option.some.inj h ▸ by assumption⟩, And.left⟩
    · exact ⟨nofun, fun h => absurd (Option.some.inj h.1 ▸ h.2) (by assumption)⟩
  · exact ⟨nofun, fun h => nomatch h.1⟩

theorem digitsValue_append_singleton (cs : List Char) (c : Char) :
    digitsValue (cs ++ [c]) = 10 * digitsValue cs + digitValue c := by
  simp [digitsValue]

end LintServer.Text
