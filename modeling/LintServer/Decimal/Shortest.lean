import LintServer.Decimal.Binary

/-!
# Shortest decimals

The decimal with the fewest digits that a reader, rounding to the nearest double-precision number,
takes back to the same number; of several such decimals the nearest.

The decimals that read back form an interval around the number: it reaches half-way to both
neighbours, ends included when the significand is even. For one digit, two digits and so on, the two
neighbours of the number on the grid of that many digits are tried.

* `Digits`: a decimal `value · 10 ^ exponent`; `shortest`: the decimal chosen for a number;
* `Layout`: when a decimal is written with an exponent, and `Layout.render`.
-/

namespace LintServer.Decimal

/-- The decimal `value · 10 ^ exponent`. -/
structure Digits where
  value : Nat
  exponent : Int
  deriving DecidableEq, Repr

/-- The number of decimal digits of a number; zero has one. -/
def width (n : Nat) : Nat := (Nat.toDigits 10 n).length

/-- The greatest `k` with `10 ^ k ≤ num / den`, for a positive ratio. -/
def decimalExponent (num den : Nat) : Int :=
  if den ≤ num then (width (num / den) : Int) - 1
  else
    let d := width (den / num)
    if num * pow10 (d - 1) = den then -((d : Int) - 1) else -(d : Int)

/-- A positive number with the interval of decimals that read back to it, all over one unit. -/
structure Interval where
  low : Nat
  mid : Nat
  high : Nat
  /-- The unit is the ratio `unit / part`. -/
  unit : Nat
  part : Nat
  /-- Whether the ends belong to the interval. -/
  closed : Bool

/-- The interval of a positive number. The gap below a power of two is half the one above it. -/
def Binary.interval (x : Binary) : Interval :=
  let u := x.exponent - 2
  { low := if x.mantissa = pow2 52 ∧ -1074 < x.exponent then 4 * x.mantissa - 1
           else 4 * x.mantissa - 2
    mid := 4 * x.mantissa
    high := 4 * x.mantissa + 2
    unit := if 0 ≤ u then pow2 u.toNat else 1
    part := if 0 ≤ u then 1 else pow2 (-u).toNat
    closed := x.mantissa % 2 = 0 }

namespace Interval

/-- Whether `c · ten / frac` lies in the interval. -/
def holds (i : Interval) (c ten frac : Nat) : Bool :=
  let v := c * ten * i.part
  let lo := i.low * i.unit * frac
  let hi := i.high * i.unit * frac
  if i.closed then lo ≤ v && v ≤ hi else lo < v && v < hi

/-- The decimal on the grid of `10 ^ k` that reads back and is nearest to the middle. -/
def onGrid? (i : Interval) (k : Int) : Option Digits :=
  let ten := if 0 ≤ k then pow10 k.toNat else 1
  let frac := if 0 ≤ k then 1 else pow10 (-k).toNat
  let mid := i.mid * i.unit * frac
  let step := ten * i.part
  let c := mid / step
  match i.holds c ten frac, i.holds (c + 1) ten frac with
  | false, false => none
  | true, false => some ⟨c, k⟩
  | false, true => some ⟨c + 1, k⟩
  | true, true => some ⟨roundDiv mid step, k⟩

/-- Tries the grids of more and more digits, `left` more at most. -/
def search (i : Interval) (top : Int) : (left : Nat) → (count : Nat) → Digits
  | 0, _ => ⟨i.mid * i.unit / i.part, 0⟩
  | left + 1, n =>
    match i.onGrid? (top - n) with
    | some d => d
    | none => i.search top left (n + 1)

end Interval

/-- The shortest decimal that reads back to a positive number. -/
def shortest (x : Binary) : Digits :=
  let i := x.interval
  i.search (decimalExponent (i.mid * i.unit) i.part) 17 0

/-! ## Writing a decimal -/

/-- Where a decimal is written without an exponent: its first digit stands between these powers of
ten. -/
structure Layout where
  least : Int
  greatest : Int

/-- The digits without zeros at the end, and the power of ten of the first one. -/
def Digits.normal (d : Digits) : List Char × Int :=
  let all := Nat.toDigits 10 d.value
  let kept := (all.reverse.dropWhile (· = '0')).reverse
  (kept, d.exponent + all.length - 1)

/-- The text of a positive decimal: positional with at least one place behind the point, or with a
signed exponent. -/
def Layout.render (l : Layout) (d : Digits) : String :=
  let (ds, e) := d.normal
  let n : Int := ds.length
  if l.least ≤ e ∧ e ≤ l.greatest then
    if e < 0 then
      "0." ++ String.ofList (List.replicate (-e - 1).toNat '0' ++ ds)
    else if n ≤ e + 1 then
      String.ofList (ds ++ List.replicate (e + 1 - n).toNat '0') ++ ".0"
    else
      String.ofList (ds.take (e + 1).toNat) ++ "." ++ String.ofList (ds.drop (e + 1).toNat)
  else
    let mantissa :=
      match ds with
      | [] => "0"
      | c :: [] => String.ofList [c]
      | c :: rest => String.ofList (c :: '.' :: rest)
    mantissa ++ (if e < 0 then "e-" else "e+") ++ toString e.natAbs

end LintServer.Decimal
