/-!
# Binary numbers of double precision

The non-negative finite numbers `m · 2 ^ q` with `m < 2 ^ 53` and `-1074 ≤ q ≤ 971`, in exact
integer arithmetic. Every operation is the exact one followed by one rounding to the nearest such
number, a tie going to the even significand.

* `pow2`, `pow10`: powers;
* `roundDiv`: a quotient rounded to the nearest integer;
* `Binary.ofRatio?`: the nearest number to a ratio, none when it is too large;
* `Binary.mul?`, `Binary.div?`, `Binary.scaleTen?`: products, quotients and shifts by a power of
  ten.
-/

namespace LintServer.Decimal

/-- A power of two. -/
def pow2 (k : Nat) : Nat := Nat.pow 2 k

/-- A power of ten. -/
def pow10 (k : Nat) : Nat := Nat.pow 10 k

/-- A quotient rounded to the nearest integer, a tie to the even one. -/
def roundDiv (num den : Nat) : Nat :=
  let q := num / den
  let r := num % den
  if 2 * r < den then q
  else if den < 2 * r then q + 1
  else if q % 2 = 0 then q
  else q + 1

/-- The number `mantissa · 2 ^ exponent`. -/
structure Binary where
  mantissa : Nat
  exponent : Int
  deriving DecidableEq, Repr

namespace Binary

/-- Zero. -/
def zero : Binary := ⟨0, -1074⟩

/-- The ratio `num / den` over `2 ^ q`, again as a ratio. -/
def shifted (num den : Nat) (q : Int) : Nat × Nat :=
  if 0 ≤ q then (num, den * pow2 q.toNat) else (num * pow2 (-q).toNat, den)

/-- A number as a ratio. -/
def toRatio (x : Binary) : Nat × Nat :=
  if 0 ≤ x.exponent then (x.mantissa * pow2 x.exponent.toNat, 1)
  else (x.mantissa, pow2 (-x.exponent).toNat)

/-- The exponent at which `num / den` has a significand of 53 bits, or the least exponent. -/
def exponentOf (num den : Nat) : Int :=
  let q : Int := max (-1074) (Nat.log2 num - Nat.log2 den - 52)
  let r := shifted num den q
  if r.1 < pow2 52 * r.2 ∧ -1074 < q then q - 1 else q

/-- The number nearest to `num / den`, or none when that is beyond the greatest number. -/
def ofRatio? (num den : Nat) : Option Binary :=
  if num = 0 then some zero
  else
    let q := exponentOf num den
    let r := shifted num den q
    let m := roundDiv r.1 r.2
    let x : Binary := if m = pow2 53 then ⟨pow2 52, q + 1⟩ else ⟨m, q⟩
    if 971 < x.exponent then none else some x

/-- The number nearest to a natural number. -/
def ofNat? (n : Nat) : Option Binary := ofRatio? n 1

/-- The rounded product. -/
def mul? (x y : Binary) : Option Binary :=
  let a := x.toRatio
  let b := y.toRatio
  ofRatio? (a.1 * b.1) (a.2 * b.2)

/-- The rounded quotient. -/
def div? (x y : Binary) : Option Binary :=
  let a := x.toRatio
  let b := y.toRatio
  ofRatio? (a.1 * b.2) (a.2 * b.1)

/-- The number nearest to a power of ten. -/
@[irreducible] def tenPow (k : Nat) : Binary := (ofNat? (pow10 k)).getD zero

/-- The shift by a power of ten that is left to do, in so many steps at most. A step up that does
not fit is too large in the end; three steps down leave zero of every number. -/
def scaleTenIn? : Nat → Binary → Int → Option Binary
  | 0, x, _ => some x
  | steps + 1, x, e =>
    if e.natAbs ≤ 308 then
      if 0 ≤ e then x.mul? (tenPow e.natAbs) else x.div? (tenPow e.natAbs)
    else if x.mantissa = 0 then some x
    else if 0 ≤ e then none
    else (x.div? (tenPow 308)).bind fun y => scaleTenIn? steps y (e + 308)

/-- A number times `10 ^ e`, in steps of at most `10 ^ 308`: one rounding for the power of ten and
one for each step. -/
def scaleTen? (x : Binary) (e : Int) : Option Binary := scaleTenIn? 4 x e

end Binary

end LintServer.Decimal
