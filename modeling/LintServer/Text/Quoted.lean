import LintServer.Text.Hidden

/-!
# Quoted text for messages

A message shows a text between double quotes so that no character of it is lost to the eye: the
quote, the backslash and the common controls have two-character escapes, and every other character
that does not show is written as its code point in braces.

* `Quoted.escape`: what stands for one character; `Quoted.render`: the quoted text.
-/

namespace LintServer.Text.Quoted

/-- The lowercase hexadecimal digits of a number, without leading zeros. -/
def hex (n : Nat) : String := String.ofList (Nat.toDigits 16 n)

/-- What stands for a character between the quotes. -/
def escape (c : Char) : String :=
  if c = '"' then "\\\""
  else if c = '\\' then "\\\\"
  else if c = '\t' then "\\t"
  else if c = '\r' then "\\r"
  else if c = '\n' then "\\n"
  else if c.toNat = 0 then "\\0"
  else if isHidden c then "\\u\x7b" ++ hex c.toNat ++ "\x7d"
  else c.toString

/-- A text between double quotes, every character shown. -/
def render (s : String) : String :=
  s.toList.foldl (fun out c => out ++ escape c) "\"" ++ "\""

end LintServer.Text.Quoted
