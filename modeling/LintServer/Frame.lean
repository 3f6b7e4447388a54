import LintServer.Fault
import LintServer.Json.Reader
import LintServer.Json.Writer
import LintServer.Text.Blank
import LintServer.Text.Quoted

/-!
# Frames

A frame is a JSON text behind a header that gives its length in bytes. The header consists of lines;
a blank line ends it. Lines that say nothing about the length are passed over, and of several
lengths the last one counts. A body that is no JSON text does not disturb what follows it; every
other mistake is the end.

* `FrameError`: the mistakes;
* **`Frame.read`**: the first frame of what has arrived of a stream, or what else there is;
* `Frame.readAll`: all frames of a whole stream;
* **`Frame.write`**: the text of a frame.
-/

namespace LintServer

/-- What ends the reading of frames. -/
inductive FrameError where
  | io (f : Fault)
  | truncatedHeader
  | missingLength
  | invalidLength (value : String)
  | oversized (length : Nat)
  deriving DecidableEq, Repr

namespace Frame

/-- The greatest length of a body. -/
def maxLength : Nat := 4 * 1024 * 1024

end Frame

/-- What ends the reading, in words. -/
def FrameError.message : FrameError → String
  | io f => s!"I/O on JSON-RPC stream: {f.message}"
  | truncatedHeader => "stream ended inside a frame header"
  | missingLength => "frame has no Content-Length header"
  | invalidLength value => s!"invalid Content-Length {Text.Quoted.render value}"
  | oversized n => s!"frame of {n} bytes exceeds the {Frame.maxLength} byte limit"

namespace Frame

/-! ## Header lines -/

/-- What a header line says. -/
inductive HeaderLine where
  | blank
  | length (n : Nat)
  | other
  deriving DecidableEq, Repr

/-- The greatest number that a length may be. -/
def maxNumber : Nat := UInt64.size - 1

/-- The number that a text denotes; a plus sign may stand before its digits. -/
def lengthOf? : List Char → Option Nat
  | '+' :: ds => Text.readWithin? maxNumber ds
  | ds => Text.readWithin? maxNumber ds

/-- Whether a name is that of the length, in letters of any case. -/
def isLengthName (name : List Char) : Bool :=
  name.map Char.toLower = "content-length".toList

/-- Judges the text of a header line. -/
def judgeText (s : List Char) : Except FrameError HeaderLine :=
  let line := Text.trim s
  if line.isEmpty then .ok .blank
  else
    match line.span (· ≠ ':') with
    | (name, ':' :: value) =>
      if isLengthName (Text.trim name) then
        let value := Text.trim value
        match lengthOf? value with
        | some n => .ok (.length n)
        | none => .error (.invalidLength (String.ofList value))
      else .ok .other
    | _ => .ok .other

/-- Judges a header line. -/
def judge (line : List UInt8) : Except FrameError HeaderLine :=
  match Text.Utf8.decode? line with
  | none => .error (.io .notText)
  | some s => judgeText s

/-! ## Reading -/

/-- What there is at the start of a stream as far as it has arrived. -/
inductive Reading where
  /-- It cannot be told yet. -/
  | more
  /-- The stream has ended between frames. -/
  | closed
  /-- A body, and what follows it. -/
  | body (bytes : List UInt8) (rest : List UInt8)
  | failed (e : FrameError)
  deriving DecidableEq, Repr

/-- What there is behind a header that gave a length or none. -/
def readBody (ended : Bool) (length : Option Nat) (s : List UInt8) : Reading :=
  match length with
  | none => .failed .missingLength
  | some n =>
    if maxLength < n then .failed (.oversized n)
    else
      let body := s.take n
      if body.length = n then .body body (s.drop n)
      else if ended then .failed (.io .endedEarly)
      else .more

/-- A header that has been read in part: the unfinished line (last byte first), the last length, and
whether a line has been finished. -/
structure Header where
  line : List UInt8
  length : Option Nat
  started : Bool

/-- Reads on in a header. -/
def readHeader (ended : Bool) : Header → List UInt8 → Reading
  | h, [] =>
    if !ended then .more
    else if h.line.isEmpty then (if h.started then .failed .truncatedHeader else .closed)
    else
      match judge h.line.reverse with
      | .error e => .failed e
      | .ok .blank => readBody ended h.length []
      | .ok _ => .failed .truncatedHeader
  | h, b :: rest =>
    if b = 0x0A then
      match judge h.line.reverse with
      | .error e => .failed e
      | .ok .blank => readBody ended h.length rest
      | .ok (.length n) => readHeader ended ⟨[], some n, true⟩ rest
      | .ok .other => readHeader ended ⟨[], h.length, true⟩ rest
    else readHeader ended { h with line := b :: h.line } rest

/-- The first frame of a stream as far as it has arrived; `ended` says that nothing more will. -/
def read (ended : Bool) (s : List UInt8) : Reading := readHeader ended ⟨[], none, false⟩ s

/-- What reading a whole stream gives one after the other. -/
inductive Item where
  | value (v : Json)
  /-- A body that is no JSON text. -/
  | malformed
  /-- The clean end. -/
  | closed
  | failed (e : FrameError)
  deriving Repr

/-- What a body gives. -/
def Item.ofBody (bytes : List UInt8) : Item :=
  match Json.ofBytes? bytes with
  | some v => .value v
  | none => .malformed

/-- The first so many items of a whole stream, behind those read so far (last first). -/
def readItems : Nat → List Item → List UInt8 → List Item
  | 0, done, _ => done.reverse
  | fuel + 1, done, s =>
    match read true s with
    | .more => done.reverse
    | .closed => (.closed :: done).reverse
    | .failed e => (.failed e :: done).reverse
    | .body bytes rest => readItems fuel (.ofBody bytes :: done) rest

/-- All items of a whole stream. Every frame takes at least one byte. -/
def readAll (s : List UInt8) : List Item := readItems (s.length + 1) [] s

/-! ## Writing -/

/-- The header of a body of so many bytes. -/
def header (length : Nat) : String := s!"Content-Length: {length}\r\n\r\n"

/-- The frame of a value. -/
def write (v : Json) : String :=
  let body := v.render
  header body.utf8ByteSize ++ body

/-- The bytes of the frame of a value. -/
def bytes (v : Json) : List UInt8 := Text.Utf8.encode (write v).toList

end Frame

end LintServer
