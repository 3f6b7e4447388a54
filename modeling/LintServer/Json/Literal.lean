/-!
# String literals

The text between the quotes of a JSON string. Writing escapes the quote, the backslash and the
characters below U+0020; reading also knows the other escapes, and joins the two halves of a
surrogate pair. A half that stands alone is refused.

* `Literal.escape`, `Literal.write`: one character, and a whole literal at the end of a text;
* `Literal.readAfterQuote`: the text of a literal whose opening quote has been read, and what
  follows it.
-/

namespace LintServer.Json.Literal

/-- A digit of a number below sixteen, in lower case. -/
def hexDigit (n : Nat) : Char := Nat.digitChar n

/-- What stands in a literal for a character. -/
def escape (c : Char) : List Char :=
  if c = '"' then ['\\', '"']
  else if c = '\\' then ['\\', '\\']
  else if c = '\x08' then ['\\', 'b']
  else if c = '\x0c' then ['\\', 'f']
  else if c = '\n' then ['\\', 'n']
  else if c = '\r' then ['\\', 'r']
  else if c = '\t' then ['\\', 't']
  else if c.toNat < 0x20 then
    ['\\', 'u', '0', '0', hexDigit (c.toNat / 16), hexDigit (c.toNat % 16)]
  else [c]

/-- The characters of a literal, quotes included. -/
def chars (s : List Char) : List Char := '"' :: (s.flatMap escape ++ ['"'])

/-- Writes a literal at the end of a text. -/
def write (out : String) (s : String) : String :=
  (s.toList.foldl (fun out c => (escape c).foldl String.push out) (out.push '"')).push '"'

/-- The value of a hexadecimal digit, upper or lower case. -/
def hexValue? (c : Char) : Option Nat :=
  if '0' ≤ c && c ≤ '9' then some (c.toNat - 48)
  else if 'a' ≤ c && c ≤ 'f' then some (c.toNat - 87)
  else if 'A' ≤ c && c ≤ 'F' then some (c.toNat - 55)
  else none

/-- The value of four hexadecimal digits. -/
def hexUnit? (a b c d : Char) : Option Nat := do
  let a ← hexValue? a
  let b ← hexValue? b
  let c ← hexValue? c
  let d ← hexValue? d
  return ((a * 16 + b) * 16 + c) * 16 + d

/-- The character of a two-character escape. -/
def unescape? (c : Char) : Option Char :=
  if c = '"' then some '"'
  else if c = '\\' then some '\\'
  else if c = '/' then some '/'
  else if c = 'b' then some '\x08'
  else if c = 'f' then some '\x0c'
  else if c = 'n' then some '\n'
  else if c = 'r' then some '\r'
  else if c = 't' then some '\t'
  else none

/-- Whether a unit is the first half of a surrogate pair. -/
def isHighHalf (n : Nat) : Bool := 0xD800 ≤ n && n ≤ 0xDBFF

/-- Whether a unit is the second half of a surrogate pair. -/
def isLowHalf (n : Nat) : Bool := 0xDC00 ≤ n && n ≤ 0xDFFF

/-- The character of a surrogate pair. -/
def joinHalves (high low : Nat) : Char :=
  Char.ofNat (0x10000 + (high - 0xD800) * 0x400 + (low - 0xDC00))

/-- Reads up to the closing quote, behind the characters read so far (last first). -/
def readAfterQuote : List Char → List Char → Option (List Char × List Char)
  | _, [] => none
  | done, '"' :: rest => some (done.reverse, rest)
  | done, '\\' :: 'u' :: a :: b :: c :: d :: rest =>
    match hexUnit? a b c d with
    | none => none
    | some n =>
      if isHighHalf n then
        match rest with
        | '\\' :: 'u' :: a :: b :: c :: d :: rest =>
          match hexUnit? a b c d with
          | none => none
          | some m => if isLowHalf m then readAfterQuote (joinHalves n m :: done) rest else none
        | _ => none
      else if isLowHalf n then none
      else readAfterQuote (Char.ofNat n :: done) rest
  | done, '\\' :: e :: rest =>
    match unescape? e with
    | none => none
    | some c => readAfterQuote (c :: done) rest
  | done, c :: rest =>
    if c.toNat < 0x20 || c = '\\' then none else readAfterQuote (c :: done) rest

/-- Reads the rest of a literal whose opening quote has been read, and gives what follows it. -/
def read? (s : List Char) : Option (List Char × List Char) := readAfterQuote [] s

end LintServer.Json.Literal
