import LintServer.Log
import LintServer.Text.Blank
import LintServer.Text.Digit
import LintServer.Text.Letter

/-!
# Which log entries are written

A filter is a list of directives with commas between them. A directive sets the least level for the
parts of the server whose names begin with its target, or for all of them; it may ask for a field
that the entry has to have. Of the directives that concern an entry the most specific one decides,
and an entry that none concerns is not written.

* `Log.Threshold`: the least level; `Log.Directive`: one directive;
* **`Log.Directive.ofChars?`**: a directive as it is written;
* `Log.Directive.concerns`, `Log.Filter.choose?`: the directive that decides;
* **`Log.Filter.ofSetting`**, `Log.Filter.lets`: the filter of a setting, and what it lets through.
-/

namespace LintServer.Log

/-! ## Thresholds -/

/-- The least level that is written. -/
inductive Threshold where
  | off
  | error
  | warn
  | info
  | debug
  | trace
  deriving DecidableEq, Repr

/-- The rank of a threshold: higher ones let more through. -/
def Threshold.rank : Threshold → Nat
  | off => 0
  | error => 1
  | warn => 2
  | info => 3
  | debug => 4
  | trace => 5

/-- The rank from which on a level is written. -/
def Level.rank : Level → Nat
  | error => 1
  | warn => 2
  | info => 3

/-- Whether entries of a level are written. -/
def Threshold.lets (t : Threshold) (l : Level) : Bool := l.rank ≤ t.rank

/-- The threshold with a rank. -/
def Threshold.ofRank? : Nat → Option Threshold
  | 0 => some off
  | 1 => some error
  | 2 => some warn
  | 3 => some info
  | 4 => some debug
  | 5 => some trace
  | _ => none

/-- A number that may have a plus in front. -/
def readRank? : List Char → Option Nat
  | '+' :: rest => Text.readNat? rest
  | s => Text.readNat? s

/-- The threshold that a text stands for: a word in letters of any case, or a rank. -/
def Threshold.ofChars? (s : List Char) : Option Threshold :=
  match readRank? s with
  | some n => ofRank? n
  | none =>
    match String.ofList (s.map Char.toLower) with
    | "off" => some off
    | "error" => some error
    | "warn" => some warn
    | "info" => some info
    | "debug" => some debug
    | "trace" => some trace
    | _ => none

/-! ## Directives -/

/-- One directive. -/
structure Directive where
  /-- What the name of the part of the server begins with. -/
  target : Option String
  /-- A field that an entry has to have. -/
  field : Option String
  /-- Whether it asks for what no entry has: a span around it, or the value of a field. -/
  idle : Bool
  level : Threshold
  deriving DecidableEq, Repr

namespace Directive

/-- A character that the target of a directive may begin with. -/
def mayStart (c : Char) : Bool := c = '-' || c = ':' || c = '_' || Text.isLetterOrNumber c

/-- What ends a directive: an equals sign and a level, everything if the level is left out, or
nothing at all. Behind an indented directive no level is known. -/
def levelAfter? (indented : Bool) : List Char → Option Threshold
  | '=' :: word =>
    if indented then none
    else if word.isEmpty then some .trace
    else Threshold.ofChars? word
  | rest => if rest.all Text.isBlank then some .trace else none

/-- A directive behind its opening bracket: the name of a span, a field in braces, the closing
bracket and the level. -/
def spanned? (indented : Bool) (target : Option String) (s : List Char) : Option Directive :=
  let (name, rest) := s.span fun c => c ≠ ']' && c ≠ '\x7b'
  match rest with
  | ']' :: rest => (levelAfter? indented rest).map fun l => ⟨target, none, true, l⟩
  | '\x7b' :: rest =>
    let (field, rest) := rest.span (· ≠ '\x7d')
    match rest with
    | '\x7d' :: ']' :: rest =>
      if field.isEmpty then none
      else
        let idle := indented || !name.isEmpty || field.contains '='
        (levelAfter? indented rest).map fun l => ⟨target, some (String.ofList field), idle, l⟩
    | _ => none
  | _ => none

/-- A directive as it is written. A single word is a level or else a target, all of whose entries
are written. Blanks belong to the words that they stand beside, so that a word with blanks is no
level, and an indented target no part of the server. -/
def ofChars? (s : List Char) : Option Directive :=
  let t := Text.trimStart s
  let indented := s ≠ t
  match t with
  | [] => none
  | '[' :: rest => spanned? indented none rest
  | c :: _ =>
    if !mayStart c then none
    else
      let (word, rest) := t.span fun c => c ≠ '=' && c ≠ '['
      let target := some (String.ofList (if indented then ' ' :: word else word))
      match rest with
      | [] =>
        match if indented then none else Threshold.ofChars? word with
        | some l => some ⟨none, none, false, l⟩
        | none => some ⟨target, none, false, .trace⟩
      | '[' :: rest => spanned? indented target rest
      | rest => (levelAfter? indented rest).map fun l => ⟨target, none, false, l⟩

/-- Whether a directive is about an entry. Every entry has a message. -/
def concerns (d : Directive) (e : Entry) : Bool :=
  !d.idle &&
    d.target.all (fun t => t.toList.isPrefixOf e.source.target.toList) &&
    d.field.all fun f => f = "message" || e.fields.any fun g => g.1 = f

/-- Whether a directive counts for less than another one that concerns the same entry: by the length
of the target, and then by the field. -/
def isLess (d e : Directive) : Bool :=
  let size : Directive → Nat := fun d => (d.target.map fun t => t.length + 1).getD 0
  let field : Directive → String := fun d => d.field.getD ""
  size d < size e || (size d = size e && field d < field e)

end Directive

/-! ## Filters -/

/-- The directives of a filter, in the order in which they are written. -/
abbrev Filter : Type := List Directive

namespace Filter

/-- The filter that sets one level for all entries. -/
def all (t : Threshold) : Filter := [⟨none, none, false, t⟩]

/-- The directive that decides about an entry: the most specific one, the last of equal ones. -/
def choose? (f : Filter) (e : Entry) : Option Directive :=
  (f.filter (·.concerns e)).foldl
    (fun best d => if best.any d.isLess then best else some d) none

/-- Whether an entry is written. -/
def lets (f : Filter) (e : Entry) : Bool := (f.choose? e).any (·.level.lets e.level)

/-- The parts of a text between commas that are not empty. -/
def parts (s : String) : List (List Char) :=
  ((s.splitOn ",").filter (!·.isEmpty)).map String.toList

/-- The filter of a setting. Errors only are written if it says nothing, and everything from
informations on if it is missing or any of its directives is refused. -/
def ofSetting (s : Option String) : Filter :=
  match s with
  | none => all .info
  | some s =>
    match (parts s).mapM Directive.ofChars? with
    | none => all .info
    | some [] => all .error
    | some f => f

end Filter

end LintServer.Log
