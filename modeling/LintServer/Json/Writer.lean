import LintServer.Json.Literal
import LintServer.Json.Numeral

/-!
# Writing JSON

The compact text of a value: no blanks, fields in the order in which the object keeps them.

* `Json.write`: appends the text of a value to a text;
* **`Json.render`**: the text of a value.
-/

namespace LintServer.Json

mutual

/-- Appends the text of a value. -/
def write : Json → String → String
  | null, out => out ++ "null"
  | bool true, out => out ++ "true"
  | bool false, out => out ++ "false"
  | number n, out => out ++ n.render
  | string s, out => Literal.write out s
  | array [], out => out ++ "[]"
  | array (v :: vs), out => (writeItems vs (write v (out.push '['))).push ']'
  | object [], out => out ++ "\x7b\x7d"
  | object ((k, v) :: fs), out =>
    (writeFields fs (write v ((Literal.write (out.push '{') k).push ':'))).push '}'

/-- Appends the texts of values, a comma before each. -/
def writeItems : List Json → String → String
  | [], out => out
  | v :: vs, out => writeItems vs (write v (out.push ','))

/-- Appends fields, a comma before each. -/
def writeFields : List (String × Json) → String → String
  | [], out => out
  | (k, v) :: fs, out => writeFields fs (write v ((Literal.write (out.push ',') k).push ':'))

end

/-- The compact text of a value. -/
def render (v : Json) : String := v.write ""

end LintServer.Json
