import LintServer.Toml.Scalar

/-!
# Reading TOML

* `readValue`, `readNested`: a value at the start of a text; arrays and inline tables nest at most
  80 deep;
* `Document`, `Document.readStatement?`: a header or an assignment, which ends its line;
* **`Toml.parse?`**: the root table of a document.
-/

namespace LintServer.Toml

/-- The items of an array behind its opening bracket, behind those read so far (last first). Blanks,
comments and line ends stand anywhere, and the last item may have a comma. -/
def readItems (item : Reading Node) : Nat → List Node → Reading (List Node)
  | 0, _, _ => none
  | fuel + 1, done, s =>
    match skipLines? (fuel + 1) s with
    | none => none
    | some (']' :: rest) => some (done.reverse, rest)
    | some s =>
      match item s with
      | none => none
      | some (v, rest) =>
        match skipLines? (fuel + 1) rest with
        | some (',' :: rest) => readItems item fuel (v :: done) rest
        | some (']' :: rest) => some ((v :: done).reverse, rest)
        | _ => none

/-- A key, an equals sign and a value; `gap?` drops what may stand on both sides of the sign. -/
def readPair? (gap? : List Char → Option (List Char)) (item : Reading Node) :
    Reading ((List String × String) × Node) := fun s => do
  let (key, s) ← readKey? s
  let '=' :: s ← gap? s | none
  let (v, s) ← item (← gap? s)
  return ((key, v), s)

/-- The assignments of an inline table behind its opening brace. Blanks, comments and line ends may
stand anywhere but inside a key, and the last assignment may have a comma. -/
def readInline (item : Reading Node) : Nat → Fields → Reading Fields
  | 0, _, _ => none
  | fuel + 1, fields, s =>
    match skipLines? (fuel + 1) s with
    | none => none
    | some ('}' :: rest) => some (fields, rest)
    | some s =>
      match readPair? (skipLines? (fuel + 1)) item s with
      | none => none
      | some (((path, key), v), rest) =>
        match Fields.assign? path key v .inline fields, skipLines? (fuel + 1) rest with
        | some fields, some (',' :: rest) => readInline item fuel fields rest
        | some fields, some ('}' :: rest) => some (fields, rest)
        | _, _ => none

/-- A value; `nested` reads what stands inside brackets or braces, if anything may. -/
def readValue (fuel : Nat) (nested : Option (Reading Node)) : Reading Node := fun s =>
  match s with
  | '[' :: rest =>
    nested.bind fun item => (readItems item fuel [] rest).map fun r => (.list r.1, r.2)
  | '{' :: rest =>
    nested.bind fun item => (readInline item fuel [] rest).map fun r => (.table .inline r.1, r.2)
  | '"' :: _ => (readString? s).map fun r => (.text r.1, r.2)
  | '\'' :: _ => (readString? s).map fun r => (.text r.1, r.2)
  | _ => (readAtom? s).bind fun r => (atom? r.1).map fun v => (v, r.2)

/-- A value that nests at most so deep. -/
def readNested (fuel : Nat) : (depth : Nat) → Reading Node
  | 0 => readValue fuel none
  | depth + 1 => readValue fuel (some (readNested fuel depth))

/-- How deep a value may nest. -/
def maxDepth : Nat := 80

/-! ## Statements -/

/-- A document as far as it has been read: the root table, and the path of the table that the last
header opened. -/
structure Document where
  root : Fields
  current : List String

/-- What follows a statement: blanks, a comment and the end of the line. -/
def endLine? (s : List Char) : Option (List Char) :=
  match skipComment? (skipInline s) with
  | some [] => some []
  | some s => afterNewline? s
  | none => none

/-- Reads one statement. -/
def Document.readStatement? (d : Document) (fuel : Nat) : Reading Document := fun s =>
  match s with
  | '[' :: '[' :: rest =>
    match readKey? rest with
    | some ((path, key), ']' :: ']' :: rest) =>
      (Fields.openItem? path key d.root).map fun root => (⟨root, path ++ [key]⟩, rest)
    | _ => none
  | '[' :: rest =>
    match readKey? rest with
    | some ((path, key), ']' :: rest) =>
      (Fields.openTable? path key d.root).map fun root => (⟨root, path ++ [key]⟩, rest)
    | _ => none
  | _ =>
    match readPair? (some ∘ skipInline) (readNested fuel maxDepth) s with
    | some (((path, key), v), rest) =>
      (Fields.within? d.current (Fields.assign? path key v .headed) d.root).map fun root =>
        (⟨root, d.current⟩, rest)
    | none => none

/-- Reads all statements that are left, so many at most. -/
def Document.readAll? (d : Document) : Nat → List Char → Option Document
  | 0, _ => none
  | fuel + 1, s =>
    match skipLines? (fuel + 1) s with
    | none => none
    | some [] => some d
    | some s =>
      match d.readStatement? (fuel + 1) s with
      | none => none
      | some (d, rest) =>
        match endLine? rest with
        | none => none
        | some rest => readAll? d fuel rest

/-- Drops a byte order mark. -/
def skipMark : List Char → List Char
  | '\uFEFF' :: rest => rest
  | s => s

/-- The root table of a document. -/
def parse? (s : String) : Option Fields :=
  let cs := skipMark s.toList
  ((⟨[], []⟩ : Document).readAll? (cs.length + 1) cs).map Document.root

end LintServer.Toml
