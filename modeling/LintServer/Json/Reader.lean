import LintServer.Json.Literal
import LintServer.Json.Numeral
import LintServer.Text.Utf8

/-!
# Reading JSON

A text is a value with blanks around it. Arrays and objects nest at most 127 deep.

* `readValue`, `readNested`: a value at the start of a text, and what follows it;
* **`Json.parse?`**, **`Json.ofBytes?`**: the value of a whole text, or of its bytes in UTF-8.
-/

namespace LintServer.Json

/-- A reading of something at the start of a text, with what follows it. -/
abbrev Reading (α : Type) : Type := List Char → Option (α × List Char)

/-- The four blanks of JSON. -/
def isSpace (c : Char) : Bool := c = ' ' || c = '\n' || c = '\r' || c = '\t'

/-- Drops the blanks at the start. -/
def skipSpace (s : List Char) : List Char := s.dropWhile isSpace

/-- What follows a word at the start of a text. -/
def afterWord? : List Char → List Char → Option (List Char)
  | [], s => some s
  | w :: ws, c :: s => if w = c then afterWord? ws s else none
  | _ :: _, [] => none

/-- Items separated by commas up to a closing bracket, behind those read so far (last first). -/
def readItems (item : Reading Json) : Nat → List Json → Reading (List Json)
  | 0, _, _ => none
  | fuel + 1, done, s =>
    match item s with
    | none => none
    | some (v, rest) =>
      match skipSpace rest with
      | ',' :: rest => readItems item fuel (v :: done) rest
      | ']' :: rest => some ((v :: done).reverse, rest)
      | _ => none

/-- A key, a colon and a value. -/
def readField (item : Reading Json) : Reading (String × Json) := fun s =>
  match skipSpace s with
  | '"' :: rest =>
    match Literal.read? rest with
    | none => none
    | some (key, rest) =>
      match skipSpace rest with
      | ':' :: rest => (item rest).map fun r => ((String.ofList key, r.1), r.2)
      | _ => none
  | _ => none

/-- Fields separated by commas up to a closing brace, set one after the other. -/
def readFields (item : Reading Json) :
    Nat → List (String × Json) → Reading (List (String × Json))
  | 0, _, _ => none
  | fuel + 1, done, s =>
    match readField item s with
    | none => none
    | some ((key, v), rest) =>
      match skipSpace rest with
      | ',' :: rest => readFields item fuel (putField key v done) rest
      | '}' :: rest => some (putField key v done, rest)
      | _ => none

/-- What follows an opening bracket. -/
def readArray (fuel : Nat) (item : Reading Json) : Reading Json := fun s =>
  match skipSpace s with
  | ']' :: rest => some (array [], rest)
  | s => (readItems item fuel [] s).map fun r => (array r.1, r.2)

/-- What follows an opening brace. -/
def readObject (fuel : Nat) (item : Reading Json) : Reading Json := fun s =>
  match skipSpace s with
  | '}' :: rest => some (object [], rest)
  | s => (readFields item fuel [] s).map fun r => (object r.1, r.2)

/-- A value with blanks before it; `nested` reads what stands inside brackets, if anything may. -/
def readValue (fuel : Nat) (nested : Option (Reading Json)) : Reading Json := fun s =>
  match skipSpace s with
  | [] => none
  | c :: rest =>
    if c = '"' then (Literal.read? rest).map fun r => (string (String.ofList r.1), r.2)
    else if c = '[' then nested.bind fun item => readArray fuel item rest
    else if c = '{' then nested.bind fun item => readObject fuel item rest
    else if c = 't' then (afterWord? ['r', 'u', 'e'] rest).map fun r => (bool true, r)
    else if c = 'f' then (afterWord? ['a', 'l', 's', 'e'] rest).map fun r => (bool false, r)
    else if c = 'n' then (afterWord? ['u', 'l', 'l'] rest).map fun r => (null, r)
    else (Numeral.read? (c :: rest)).bind fun r => r.1.value?.map fun n => (number n, r.2)

/-- A value that nests at most so deep. -/
def readNested (fuel : Nat) : (depth : Nat) → Reading Json
  | 0 => readValue fuel none
  | depth + 1 => readValue fuel (some (readNested fuel depth))

/-- How deep a text may nest. -/
def maxDepth : Nat := 127

/-- The value of a whole text. -/
def parse? (s : List Char) : Option Json :=
  match readNested (s.length + 1) maxDepth s with
  | some (v, rest) => if (skipSpace rest).isEmpty then some v else none
  | none => none

/-- The value of a whole text in UTF-8. -/
def ofBytes? (bs : List UInt8) : Option Json := (Text.Utf8.decode? bs).bind parse?

end LintServer.Json
