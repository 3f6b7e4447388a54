import LintServer.Environment

/-!
# Texts with references to variables

A reference is a name between `$` with an opening brace and the next closing brace. References are
found in one pass from the left: what is put in for one is never looked at again. A reference that
is not closed is plain text.

* `Piece`;
* **`Template.pieces`**: the characters and references that a text consists of;
* `Template.expand`: the text with the values put in; `Template.unset`: the names without a value.
-/

namespace LintServer

/-- A part of a text with references. -/
inductive Piece where
  | literal (c : Char)
  | variable (name : List Char)
  deriving DecidableEq, Repr

namespace Template

/-- The pieces of the rest of a text, outside a reference or behind the beginning of a name (last
character first). -/
def scan : Option (List Char) → List Char → List Piece
  | none, [] => []
  | none, '$' :: '\x7b' :: rest => scan (some []) rest
  | none, c :: rest => .literal c :: scan none rest
  | some name, [] => ('$' :: '\x7b' :: name.reverse).map .literal
  | some name, c :: rest =>
    if c = '\x7d' then .variable name.reverse :: scan none rest else scan (some (c :: name)) rest

/-- The characters and references of a text. -/
def pieces (s : String) : List Piece := scan none s.toList

/-- What is put in for a name; nothing for the empty one or one without a value. -/
def value (env : Environment) (name : List Char) : List Char :=
  if name.isEmpty then [] else ((env (String.ofList name)).getD "").toList

/-- The characters that stand for a piece. -/
def expandPiece (env : Environment) : Piece → List Char
  | .literal c => [c]
  | .variable name => value env name

/-- A text with the values of its references put in. -/
def expand (env : Environment) (s : String) : String :=
  String.ofList ((pieces s).flatMap (expandPiece env))

/-- The name of a reference that has no value; an empty name is not missed. -/
def unsetName? (env : Environment) : Piece → Option String
  | .literal _ => none
  | .variable name =>
    if !name.isEmpty && (env (String.ofList name)).isNone then some (String.ofList name) else none

/-- The names of the references without a value, in order, once per reference. -/
def unset (env : Environment) (s : String) : List String := (pieces s).filterMap (unsetName? env)

/-- What is said of a reference without a value. -/
def unsetMessage (name : String) : String :=
  "Config references unset variable $\x7b" ++ name ++ "\x7d"

end Template

end LintServer
