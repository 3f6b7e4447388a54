import LintServer.Toml.Basic
import LintServer.Toml.Text
import LintServer.Decimal.Binary

/-!
# Numbers, truth values and moments of TOML

A scalar that is no string is one row of characters, or a date and a time with one space between
them. How the row begins tells what it is to be. A row can have the look of a number and still have
no value: digits are missing, strange characters stand among them, or the number is too large. A
whole number has 128 bits at most, and a fraction is within double precision.

* `readAtom?`: such a row at the start of a text; `atom?`: what it denotes.
-/

namespace LintServer.Toml

open Text (isAsciiDigit digitsValue)

/-! ## Digits in groups -/

/-- The characters without their underscores, each of which stands in front of a digit and behind a
digit or the first character; `fits` says whether one may stand here. -/
def ungroupFrom? (isDig : Char → Bool) : (fits : Bool) → List Char → Option (List Char)
  | _, [] => some []
  | _, ['_'] => none
  | fits, '_' :: c :: rest =>
    if fits && isDig c then ungroupFrom? isDig true (c :: rest) else none
  | _, c :: rest => (ungroupFrom? isDig (isDig c) rest).map (c :: ·)

/-- The characters of a row without their underscores. -/
def ungroup? (isDig : Char → Bool) : List Char → Option (List Char)
  | [] => some []
  | c :: rest => if c = '_' then none else (ungroupFrom? isDig true rest).map (c :: ·)

/-- A sign, if there is one, and what follows it. -/
def signOf : List Char → Bool × List Char
  | '-' :: rest => (true, rest)
  | '+' :: rest => (false, rest)
  | s => (false, s)

/-- A row of one digit or more. -/
def areDigits (s : List Char) : Bool := !s.isEmpty && s.all isAsciiDigit

/-! ## Whole numbers -/

/-- A hexadecimal digit. -/
def isHex (c : Char) : Bool := (Json.Literal.hexValue? c).isSome

/-- A whole number of at most 128 bits. -/
def wide (z : Int) : Node :=
  if -(Decimal.pow2 127 : Int) ≤ z ∧ z < Decimal.pow2 128 then .whole z else .unreadable

/-- The value of digits in a base. -/
def baseValue (base : Nat) (ds : List Char) : Nat :=
  ds.foldl (fun n c => base * n + (Json.Literal.hexValue? c).getD 0) 0

/-- A number in a base, behind the mark of the base. -/
def based? (base : Nat) (s : List Char) : Option Node :=
  (ungroup? isHex s).bind fun ds =>
    if ds.all fun c => (Json.Literal.hexValue? c).any (· < base) then
      some (if ds.isEmpty then .unreadable else wide (baseValue base ds))
    else none

/-- A decimal number with its sign. -/
def decimal? (s : List Char) : Option Node :=
  (ungroup? isHex s).map fun s =>
    let (negative, ds) := signOf s
    if areDigits ds then wide (if negative then -(digitsValue ds : Int) else digitsValue ds)
    else .unreadable

/-! ## Fractions -/

/-- From here on a number is nearer to the next power of two than to the greatest number of double
precision. -/
def outOfRange : Nat := Decimal.pow2 1024 - Decimal.pow2 970

/-- Whether `digits · 10 ^ e` is within double precision. The number of digits decides, unless it
leaves the number between `10 ^ 308` and `10 ^ 309`. -/
def fits (digits : List Char) (e : Int) : Bool :=
  let ds := digits.dropWhile (· = '0')
  let size := ds.length + e
  if ds.isEmpty || size ≤ 308 then true
  else if 309 < size then false
  else if 0 ≤ e then digitsValue ds * Decimal.pow10 e.toNat < outOfRange
  else digitsValue ds < outOfRange * Decimal.pow10 (-e).toNat

/-- The power of ten behind an exponent mark, if there is one. -/
def power? : List Char → Option Int
  | [] => some 0
  | _ :: rest =>
    let (negative, ds) := signOf rest
    if areDigits ds then some (if negative then -(digitsValue ds : Int) else digitsValue ds)
    else none

/-- A number with a point, an exponent or both, with its sign. -/
def fraction? (s : List Char) : Option Node := do
  let (_, s) := signOf (← ungroup? isAsciiDigit s)
  let (mantissa, exponent) := s.span fun c => c ≠ 'e' && c ≠ 'E'
  let (before, behind) := mantissa.span (· ≠ '.')
  let places := behind.drop 1
  if !areDigits before || (before.head? = some '0' && before.length ≠ 1) then none
  if !behind.isEmpty && !areDigits places then none
  let power ← power? exponent
  return if fits (before ++ places) (power - places.length) then .fraction else .unreadable

/-! ## Moments -/

/-- So many digits, and what follows them. -/
def digits? (n : Nat) (s : List Char) : Option (Nat × List Char) :=
  let ds := s.take n
  if ds.length = n && ds.all isAsciiDigit then some (digitsValue ds, s.drop n) else none

/-- Whether a year has a leap day. -/
def isLeap (year : Nat) : Bool := (year % 4 = 0 && year % 100 ≠ 0) || year % 400 = 0

/-- The number of days of a month. -/
def daysOf (year month : Nat) : Nat :=
  if month = 2 then (if isLeap year then 29 else 28)
  else if month = 4 || month = 6 || month = 9 || month = 11 then 30
  else 31

/-- What follows a date. -/
def afterDate? (s : List Char) : Option (List Char) := do
  let (year, s) ← digits? 4 s
  let '-' :: s := s | none
  let (month, s) ← digits? 2 s
  let '-' :: s := s | none
  let (day, s) ← digits? 2 s
  if 1 ≤ month && month ≤ 12 && 1 ≤ day && day ≤ daysOf year month then some s else none

/-- What follows hours and minutes. -/
def afterMinutes? (s : List Char) : Option (List Char) := do
  let (hour, s) ← digits? 2 s
  let ':' :: s := s | none
  let (minute, s) ← digits? 2 s
  if hour ≤ 23 && minute ≤ 59 then some s else none

/-- What follows seconds and their fraction, if there are any. -/
def afterSeconds? : List Char → Option (List Char)
  | ':' :: s => do
    let (second, s) ← digits? 2 s
    if 60 < second then none
    match s with
    | '.' :: s =>
      let r := s.span isAsciiDigit
      if r.1.isEmpty then none else some r.2
    | s => some s
  | s => some s

/-- What follows a time of day. -/
def afterTime? (s : List Char) : Option (List Char) := (afterMinutes? s).bind afterSeconds?

/-- Whether an offset to universal time stands here, or nothing. -/
def isOffset : List Char → Bool
  | [] => true
  | ['Z'] => true
  | ['z'] => true
  | '+' :: s => afterMinutes? s = some []
  | '-' :: s => afterMinutes? s = some []
  | _ => false

/-- A date, a time of day, or a date with a time and perhaps an offset. -/
def isMoment (s : List Char) : Bool :=
  match afterDate? s with
  | some [] => true
  | some (c :: rest) =>
    (c = 'T' || c = 't' || c = ' ') &&
      match afterTime? rest with
      | some rest => isOffset rest
      | none => false
  | none => afterTime? s = some []

/-! ## Rows -/

/-- What a row that begins like a number denotes; `signed` says whether a sign stands before `s`,
which is the row behind it. A minus or a colon behind the first digits makes it a moment, and a
point or an exponent mark a fraction. -/
def numeral? (row : List Char) (signed : Bool) (s : List Char) : Option Node :=
  match s with
  | '0' :: 'x' :: rest => if signed then none else based? 16 rest
  | '0' :: 'o' :: rest => if signed then none else based? 8 rest
  | '0' :: 'b' :: rest => if signed then none else based? 2 rest
  | _ =>
    let (ds, rest) := s.span isAsciiDigit
    match rest with
    | [] => if ds.head? = some '0' && ds.length ≠ 1 then none else decimal? row
    | c :: _ =>
      if c = '-' || c = ':' then (if isMoment row then some .moment else none)
      else if rest.any fun c => c = '.' || c = 'e' || c = 'E' then fraction? row
      else if c = '_' && ds.head? ≠ some '0' then decimal? row
      else none

/-- What a row of characters denotes. -/
def atom? (row : List Char) : Option Node :=
  if row = ['t', 'r', 'u', 'e'] then some (.truth true)
  else if row = ['f', 'a', 'l', 's', 'e'] then some (.truth false)
  else
    let s := (signOf row).2
    if s = ['i', 'n', 'f'] || s = ['n', 'a', 'n'] then some .fraction
    else match s with
      | c :: _ => if isAsciiDigit c || c = '_' then numeral? row (s ≠ row) s else none
      | [] => none

/-- The characters that end a row. -/
def endsAtom (c : Char) : Bool :=
  isInlineBlank c || c = '\n' || c = '\r' || c = '#' || c = '=' || c = ',' || c = '[' || c = ']' ||
    c = '\x7b' || c = '\x7d'

/-- The row of characters at the start of a text; a time behind a date and one space joins it. -/
def readAtom? : Reading (List Char) := fun s =>
  let r := s.span fun c => !endsAtom c
  if r.1.isEmpty then none
  else
    match r.2 with
    | ' ' :: a :: rest =>
      if afterDate? r.1 = some [] && isAsciiDigit a then
        let t := (a :: rest).span fun c => !endsAtom c
        some (r.1 ++ ' ' :: t.1, t.2)
      else some r
    | _ => some r

end LintServer.Toml
