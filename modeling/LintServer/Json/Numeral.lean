import LintServer.Json.Basic
import LintServer.Text.Digit

/-!
# Numerals

The numbers of JSON texts. A whole number of 64 bits is taken exactly. Of any other numeral the
leading digits are taken as long as they fit 64 bits; what they denote is rounded to double
precision and then shifted by the power of ten that is left, in rounded steps. A numeral beyond the
greatest double-precision number is refused.

* `Numeral`, `Numeral.value?`: the parts of a numeral and the number it denotes;
* `Numeral.read?`: a numeral at the start of a text, and what follows it;
* `Number.render`: the text of a number.
-/

namespace LintServer.Json

open Text (isAsciiDigit digitValue digitsValue)
open Decimal (Binary)

/-- The parts of a numeral, as rows of digits. -/
structure Numeral where
  negative : Bool
  whole : List Char
  /-- The digits behind the point, if there is one. -/
  places : Option (List Char)
  /-- The power of ten behind the exponent mark, if there is one. -/
  power : Option Int
  deriving DecidableEq, Repr

namespace Numeral

/-- The greatest number of 64 bits. -/
def limit : Nat := UInt64.size - 1

/-- Leading digits that fit 64 bits, and the power of ten they are to be multiplied by. -/
structure Significand where
  value : Nat
  exponent : Int
  /-- Whether a digit has already been left out. -/
  full : Bool
  deriving DecidableEq, Repr

/-- Takes a digit before the point; one that is left out multiplies by ten. -/
def Significand.takeWhole (s : Significand) (c : Char) : Significand :=
  let v := 10 * s.value + digitValue c
  if s.full || limit < v then ⟨s.value, s.exponent + 1, true⟩ else ⟨v, s.exponent, false⟩

/-- Takes a digit behind the point; one that is left out does nothing. -/
def Significand.takePlace (s : Significand) (c : Char) : Significand :=
  let v := 10 * s.value + digitValue c
  if s.full || limit < v then ⟨s.value, s.exponent, true⟩ else ⟨v, s.exponent - 1, false⟩

/-- The leading digits of a numeral. -/
def significand (n : Numeral) : Significand :=
  let w := n.whole.foldl Significand.takeWhole ⟨0, 0, false⟩
  (n.places.getD []).foldl Significand.takePlace ⟨w.value, w.exponent, false⟩

/-- The double-precision reading of a numeral. -/
def real? (n : Numeral) : Option Number :=
  let s := n.significand
  ((Binary.ofNat? s.value).bind fun x => x.scaleTen? (s.exponent + n.power.getD 0)).map
    fun x => .real n.negative x

/-- The number that a numeral denotes. A negative zero is a double-precision one. -/
def value? (n : Numeral) : Option Number :=
  if n.places.isNone && n.power.isNone then
    let greatest := if n.negative then UInt64.size / 2 else limit
    match n.negative, Text.digitsWithin? greatest n.whole with
    | false, some v => some (.int v)
    | true, some (v + 1) => some (.int (-(v + 1 : Int)))
    | _, _ => n.real?
  else n.real?

/-- The digits at the start of a text, at least one, and what follows them. -/
def readDigits? (s : List Char) : Option (List Char × List Char) :=
  let r := s.span isAsciiDigit
  if r.1.isEmpty then none else some r

/-- The places behind a point, if one follows. -/
def readPlaces? : List Char → Option (Option (List Char) × List Char)
  | '.' :: rest => (readDigits? rest).map fun r => (some r.1, r.2)
  | s => some (none, s)

/-- The digits of a power of ten and its sign. -/
def readSigned? : List Char → Option (Int × List Char)
  | '+' :: rest => (readDigits? rest).map fun r => ((digitsValue r.1 : Int), r.2)
  | '-' :: rest => (readDigits? rest).map fun r => (-(digitsValue r.1 : Int), r.2)
  | s => (readDigits? s).map fun r => ((digitsValue r.1 : Int), r.2)

/-- The power of ten behind an exponent mark, if one follows. -/
def readPower? : List Char → Option (Option Int × List Char)
  | 'e' :: rest => (readSigned? rest).map fun r => (some r.1, r.2)
  | 'E' :: rest => (readSigned? rest).map fun r => (some r.1, r.2)
  | s => some (none, s)

/-- The whole part has no zero in front of other digits. -/
def wholeOk (ds : List Char) : Bool := ds.head? ≠ some '0' || ds.length = 1

/-- The parts behind the sign. -/
def readUnsigned? (negative : Bool) (s : List Char) : Option (Numeral × List Char) := do
  let (whole, s) ← readDigits? s
  if !wholeOk whole then none
  let (places, s) ← readPlaces? s
  let (power, s) ← readPower? s
  return (⟨negative, whole, places, power⟩, s)

/-- The numeral at the start of a text, and what follows it. -/
def read? : List Char → Option (Numeral × List Char)
  | '-' :: rest => readUnsigned? true rest
  | s => readUnsigned? false s

end Numeral

/-- Double-precision numbers are positional from `0.00001` up to below `1e16`. -/
def realLayout : Decimal.Layout := ⟨-5, 15⟩

/-- The text of a number. -/
def Number.render : Number → String
  | .int z => toString z
  | .real negative x =>
    let size := if x.mantissa = 0 then "0.0" else realLayout.render (Decimal.shortest x)
    if negative then "-" ++ size else size

end LintServer.Json
