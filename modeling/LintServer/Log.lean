import LintServer.Text.Quoted

/-!
# Log entries

* `Log.Level`, `Log.Source`, `Log.Entry`: an entry is a text from one part of the server, with named
  values behind it;
* `Log.shown`: a text in which no control character reaches a terminal that could act on it;
* `Log.Entry.render`: the entry as one line.
-/

namespace LintServer.Log

/-- How important an entry is. -/
inductive Level where
  | error
  | warn
  | info
  deriving DecidableEq, Repr

/-- The word for a level. -/
def Level.word : Level → String
  | error => "ERROR"
  | warn => "WARN"
  | info => "INFO"

/-- The part of the server that an entry comes from. -/
inductive Source where
  | startup
  | config
  | linter
  | session
  deriving DecidableEq, Repr

/-- The name under which a filter knows a part of the server. -/
def Source.target : Source → String
  | startup => "jsonlint_ls"
  | config => "jsonlint_config"
  | linter => "jsonlint_core::linter"
  | session => "jsonlint_lsp::session"

/-- The value of a field: shown between quotes, or as it is. -/
inductive Value where
  | quoted (s : String)
  | plain (s : String)
  deriving DecidableEq, Repr

/-- The text of a value. -/
def Value.render : Value → String
  | quoted s => Text.Quoted.render s
  | plain s => s

/-- One entry. -/
structure Entry where
  source : Source
  level : Level
  text : String
  fields : List (String × Value)
  deriving DecidableEq, Repr

/-- A warning without fields. -/
def warning (source : Source) (text : String) : Entry := ⟨source, .warn, text, []⟩

/-- The level and the text of an entry. -/
def Entry.headline (e : Entry) : String := s!"{e.level.word} {e.text}"

/-- The controls of ASCII that a terminal acts on, apart from those that set out the text: bell,
backspace, form feed, escape and delete. -/
def isTerminalControl (c : Char) : Bool :=
  c = '\x07' || c = '\x08' || c = '\x0c' || c = '\x1b' || c = '\x7f'

/-- What stands for a character: two digits for a control of ASCII, and the code point in braces for
a control beyond it. -/
def showChar (c : Char) : String :=
  if isTerminalControl c then
    (if c.toNat < 16 then "\\x0" else "\\x") ++ Text.Quoted.hex c.toNat
  else if 0x80 ≤ c.toNat && c.toNat ≤ 0x9F then
    "\\u\x7b" ++ Text.Quoted.hex c.toNat ++ "\x7d"
  else c.toString

/-- A text in which no control character reaches a terminal that could act on it. -/
def shown (s : String) : String := s.toList.foldl (fun out c => out ++ showChar c) ""

/-- The line of an entry: level, text and fields. -/
def Entry.render (e : Entry) : String :=
  e.fields.foldl (fun line f => line ++ s!" {f.1}={f.2.render}") s!"{e.level.word} {shown e.text}"

end LintServer.Log
