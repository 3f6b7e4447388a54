/-!
# Faults

Why reading, writing or launching something failed.

* `Fault`: the causes; `Fault.message`: their wording.
-/

namespace LintServer

/-- A failed operation on files, streams or processes. -/
inductive Fault where
  | noEntry
  | accessDenied
  | alreadyExists
  | notDirectory
  | isDirectory
  | nameTooLong
  | notImplemented
  | brokenPipe
  /-- A stream ended before the bytes that were asked for. -/
  | endedEarly
  /-- Bytes that are no UTF-8 stand where a text is read. -/
  | notText
  /-- A name or an argument holds the character U+0000. -/
  | nulByte
  deriving DecidableEq, Repr

/-- The wording of a cause that the operating system knows by a number. -/
def Fault.numbered (text : String) (number : Nat) : String := s!"{text} (os error {number})"

/-- The wording of a cause. -/
def Fault.message : Fault → String
  | noEntry => numbered "No such file or directory" 2
  | accessDenied => numbered "Permission denied" 13
  | alreadyExists => numbered "File exists" 17
  | notDirectory => numbered "Not a directory" 20
  | isDirectory => numbered "Is a directory" 21
  | nameTooLong => numbered "File name too long" 36
  | notImplemented => numbered "Function not implemented" 38
  | brokenPipe => "broken pipe"
  | endedEarly => "early eof"
  | notText => "stream did not contain valid UTF-8"
  | nulByte => "nul byte found in provided data"

end LintServer
