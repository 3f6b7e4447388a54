import LintServer.Text.Digit
import LintServer.Json.Literal

/-!
# Keys, strings and blanks of TOML

* `skipInline`, `afterNewline?`, `skipComment?`, `skipLines?`: what stands between the parts;
* `readString?`: the four kinds of strings; `readKey?`: a bare, quoted or dotted key.
-/

namespace LintServer.Toml

/-- A reading of something at the start of a text, with what follows it. -/
abbrev Reading (α : Type) : Type := List Char → Option (α × List Char)

/-- The controls that stand in no string and no comment; the tab may. -/
def isControl (c : Char) : Bool := (c.toNat < 0x20 && c ≠ '\t') || c.toNat = 0x7F

/-- A blank within a line. -/
def isInlineBlank (c : Char) : Bool := c = ' ' || c = '\t'

/-- Drops the blanks within a line. -/
def skipInline (s : List Char) : List Char := s.dropWhile isInlineBlank

/-- What follows a line end. -/
def afterNewline? : List Char → Option (List Char)
  | '\n' :: rest => some rest
  | '\r' :: '\n' :: rest => some rest
  | _ => none

/-- Drops a comment, which runs to the end of the line, if one starts here. -/
def skipComment? : List Char → Option (List Char)
  | '#' :: rest =>
    let r := rest.span fun c => !isControl c
    if r.2.isEmpty || (afterNewline? r.2).isSome then some r.2 else none
  | s => some s

/-- Drops blanks, comments and line ends, in so many lines at most. -/
def skipLines? : Nat → List Char → Option (List Char)
  | 0, _ => none
  | fuel + 1, s =>
    match skipComment? (skipInline s) with
    | none => none
    | some s =>
      match afterNewline? s with
      | some rest => skipLines? fuel rest
      | none => some s

/-! ## Strings -/

/-- The character with a code point, if there is one. -/
def scalar? (n : Nat) : Option Char :=
  if n < 0xD800 || (0xDFFF < n && n < 0x110000) then some (Char.ofNat n) else none

/-- The value of a row of hexadecimal digits. -/
def hexRow? (cs : List Char) : Option Nat :=
  cs.foldl (fun n c => n.bind fun n => (Json.Literal.hexValue? c).map (16 * n + ·)) (some 0)

/-- The character of a two-character escape. -/
def unescape? (c : Char) : Option Char :=
  if c = 'b' then some '\x08'
  else if c = 't' then some '\t'
  else if c = 'n' then some '\n'
  else if c = 'f' then some '\x0c'
  else if c = 'r' then some '\r'
  else if c = 'e' then some '\x1b'
  else if c = '"' then some '"'
  else if c = '\\' then some '\\'
  else none

/-- How many hexadecimal digits follow an escape letter. -/
def hexWidth? (c : Char) : Option Nat :=
  if c = 'x' then some 2 else if c = 'u' then some 4 else if c = 'U' then some 8 else none

/-- The character of an escape behind its backslash. -/
def readEscape? : Reading Char
  | [] => none
  | c :: rest =>
    match hexWidth? c with
    | some n =>
      if (rest.take n).length = n then
        (hexRow? (rest.take n)).bind fun v => (scalar? v).map fun c => (c, rest.drop n)
      else none
    | none => (unescape? c).map fun c => (c, rest)

/-- The rest of a string between single double-quotes. -/
def readBasic? : Nat → List Char → Reading (List Char)
  | 0, _, _ => none
  | _ + 1, _, [] => none
  | _ + 1, done, '"' :: rest => some (done.reverse, rest)
  | fuel + 1, done, '\\' :: rest =>
    match readEscape? rest with
    | some (c, rest) => readBasic? fuel (c :: done) rest
    | none => none
  | fuel + 1, done, c :: rest =>
    if isControl c then none else readBasic? fuel (c :: done) rest

/-- The rest of a string between single quotes. -/
def readLiteral? : List Char → Reading (List Char)
  | _, [] => none
  | done, '\'' :: rest => some (done.reverse, rest)
  | done, c :: rest => if isControl c then none else readLiteral? (c :: done) rest

/-- Drops blanks and line ends. -/
def skipAllBlank : List Char → List Char
  | '\r' :: '\n' :: rest => skipAllBlank rest
  | c :: rest => if isInlineBlank c || c = '\n' then skipAllBlank rest else c :: rest
  | [] => []

/-- Three quotes close a long string; up to two more directly behind them still belong to it. -/
def closing? (q : Char) (s : List Char) : Option (List Char × List Char) :=
  let n := min (s.takeWhile (· = q)).length 5
  if n < 3 then none else some (List.replicate (n - 3) q, s.drop n)

/-- The rest of a long string. Line ends stay as they are written; where escapes count, a backslash
at the end of a line drops all blanks and line ends up to the next character. -/
def readLong? (q : Char) (escapes : Bool) : Nat → List Char → Reading (List Char)
  | 0, _, _ => none
  | fuel + 1, done, s =>
    match closing? q s with
    | some (quotes, rest) => some (done.reverse ++ quotes, rest)
    | none =>
      match s with
      | [] => none
      | '\r' :: '\n' :: rest => readLong? q escapes fuel ('\n' :: '\r' :: done) rest
      | c :: rest =>
        if escapes && c = '\\' then
          match afterNewline? (skipInline rest) with
          | some rest => readLong? q escapes fuel done (skipAllBlank rest)
          | none =>
            match readEscape? rest with
            | some (c, rest) => readLong? q escapes fuel (c :: done) rest
            | none => none
        else if isControl c && c ≠ '\n' then none
        else readLong? q escapes fuel (c :: done) rest

/-- Drops one line end directly behind the opening quotes of a long string. -/
def skipFirstNewline (s : List Char) : List Char := (afterNewline? s).getD s

/-- A string of any kind. -/
def readString? : Reading String
  | '"' :: '"' :: '"' :: rest =>
    (readLong? '"' true (rest.length + 1) [] (skipFirstNewline rest)).map fun r =>
      (String.ofList r.1, r.2)
  | '\'' :: '\'' :: '\'' :: rest =>
    (readLong? '\'' false (rest.length + 1) [] (skipFirstNewline rest)).map fun r =>
      (String.ofList r.1, r.2)
  | '"' :: rest =>
    (readBasic? (rest.length + 1) [] rest).map fun r => (String.ofList r.1, r.2)
  | '\'' :: rest => (readLiteral? [] rest).map fun r => (String.ofList r.1, r.2)
  | _ => none

/-! ## Keys -/

/-- A character of a bare key. -/
def isBare (c : Char) : Bool :=
  ('a' ≤ c && c ≤ 'z') || ('A' ≤ c && c ≤ 'Z') || ('0' ≤ c && c ≤ '9') || c = '_' || c = '-'

/-- One part of a key: bare, or a string that is not a long one. -/
def readPart? : Reading String := fun s =>
  match s with
  | '"' :: '"' :: '"' :: _ => none
  | '\'' :: '\'' :: '\'' :: _ => none
  | '"' :: _ => readString? s
  | '\'' :: _ => readString? s
  | _ =>
    let r := s.span isBare
    if r.1.isEmpty then none else some (String.ofList r.1, r.2)

/-- How many parts a key may have. -/
def maxParts : Nat := 80

/-- The parts of a key, so many at most, with blanks around the dots: all but the last, and the
last. -/
def readKeyFrom? : Nat → List String → Reading (List String × String)
  | 0, _, _ => none
  | fuel + 1, done, s =>
    match readPart? (skipInline s) with
    | none => none
    | some (part, rest) =>
      match skipInline rest with
      | '.' :: rest => readKeyFrom? fuel (part :: done) rest
      | rest => some ((done.reverse, part), rest)

/-- A key with its dots. -/
def readKey? : Reading (List String × String) := readKeyFrom? maxParts []

end LintServer.Toml
