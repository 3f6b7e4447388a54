import LintServer.Text.Utf8

/-!
# Paths

Paths are texts with `/` between their parts. One that starts with `/` is absolute.

* `Path.join`: a path below another one; an absolute path replaces the one it is joined to;
* `Path.components`: the parts that count, without empty ones and single dots;
* `Path.fileUri?`: the `file` URI of an absolute path.
-/

namespace LintServer

/-- A path, as it was written. -/
structure Path where
  text : String
  deriving DecidableEq, Repr

namespace Path

instance : ToString Path := ⟨text⟩

/-- Whether a path starts at the root. -/
def isAbsolute (p : Path) : Bool := p.text.toList.head? = some '/'

/-- The path `q` seen from `p`. One separator stands between them, unless `p` is empty or already
ends in one. -/
def join (p q : Path) : Path :=
  if q.isAbsolute then q
  else if p.text.isEmpty || p.text.toList.getLast? = some '/' then ⟨p.text ++ q.text⟩
  else ⟨p.text ++ "/" ++ q.text⟩

/-- The path with a name below it. -/
def child (p : Path) (name : String) : Path := p.join ⟨name⟩

/-! ## Components -/

/-- The parts between separators, empty ones included. -/
def segments (s : List Char) : List (List Char) :=
  s.foldr (fun c parts =>
    if c = '/' then [] :: parts
    else match parts with
      | [] => [[c]]
      | part :: parts => (c :: part) :: parts) [[]]

/-- Whether a part counts: it is neither empty nor a single dot. -/
def counts (part : List Char) : Bool := !part.isEmpty && part ≠ ['.']

/-- The parts that count. -/
def components (p : Path) : List (List Char) := (segments p.text.toList).filter counts

/-! ## File URIs -/

/-- Bytes that a part of a URI does not show as they are: controls, what is not ASCII, and marks
with a meaning of their own. -/
def isEscaped (b : UInt8) : Bool :=
  b < 0x20 || 0x7F ≤ b ||
    [' ', '"', '<', '>', '\\', '`', '#', '?', '{', '}', '/', '%'].any fun c => c.toNat = b.toNat

/-- An uppercase hexadecimal digit. -/
def upperDigit (n : Nat) : Char := (Nat.digitChar n).toUpper

/-- What stands for a byte in a URI. -/
def escapeByte (b : UInt8) : List Char :=
  if isEscaped b then ['%', upperDigit (b.toNat / 16), upperDigit (b.toNat % 16)]
  else [Char.ofNat b.toNat]

/-- What stands for a part of a path in a URI. -/
def escapePart (part : List Char) : List Char := (Text.Utf8.encode part).flatMap escapeByte

/-- The URI of an absolute path: its components, each behind a separator. -/
def fileUri? (p : Path) : Option String :=
  if p.isAbsolute then
    let parts := p.components.flatMap fun part => '/' :: escapePart part
    some ("file://" ++ if parts.isEmpty then "/" else String.ofList parts)
  else none

/-- What is said of a path that is not absolute. -/
def noUriMessage (p : Path) : String := s!"cannot convert path to file URI: {p}"

end Path

end LintServer
