import LintServer.Text.Blank
import LintServer.Text.Utf8

/-!
# Captured output

A run prints to two streams, and two readers take their lines. A reader can take a line once its
line end has been written; what stands behind the last line end is a line when the stream has ended.
What is kept of a line is its text without blanks at its end, and the lines follow each other
without anything between them. When both readers have something to take, either of them may go
first.

* `Source`, `Source.next?`: a stream, and what its reader takes next;
* `Capture`, `Capture.take?`: what has been kept, and a turn of a reader;
* **`Capture.move?`**, `Capture.run?`: what can happen, in any order;
* `Capture.write`, `Capture.finish`: readers that take everything at once;
* `Capture.pushLine`: adds a line that is already a text.
-/

namespace LintServer

/-- The streams of a run. -/
inductive OutputStream where
  | out
  | err
  deriving DecidableEq, Repr

/-! ## One stream -/

/-- A stream with the bytes that its reader has not taken yet. -/
inductive Source where
  /-- More may be written. -/
  | writing (waiting : List UInt8)
  /-- Nothing more will be written. -/
  | ended (waiting : List UInt8)
  /-- The reader has met the end. -/
  | closed
  deriving DecidableEq, Repr

namespace Source

/-- The byte that ends a line. -/
def lineEnd : UInt8 := 0x0A

/-- The bytes that have been written and not taken. -/
def waiting : Source → List UInt8
  | writing bs => bs
  | ended bs => bs
  | closed => []

/-- Writes to a stream that has not ended. -/
def write? (bytes : List UInt8) : Source → Option Source
  | writing bs => some (writing (bs ++ bytes))
  | _ => none

/-- Ends a stream. -/
def finish? : Source → Option Source
  | writing bs => some (ended bs)
  | _ => none

/-- The first line that has its line end, and what stands behind it. -/
def firstLine? (bs : List UInt8) : Option (List UInt8 × List UInt8) :=
  match bs.span (· ≠ lineEnd) with
  | (line, _ :: rest) => some (line, rest)
  | (_, []) => none

/-- What the reader takes next: a line, or the end of the stream. -/
def next? : Source → Option (Option (List UInt8) × Source)
  | writing bs => (firstLine? bs).map fun p => (some p.1, writing p.2)
  | ended [] => some (none, closed)
  | ended bs =>
    match firstLine? bs with
    | some (line, rest) => some (some line, ended rest)
    | none => some (some bs, ended [])
  | closed => none

/-- How often the reader can take something, at most. -/
def size : Source → Nat
  | writing bs => bs.length
  | ended bs => bs.length + 1
  | closed => 0

end Source

/-! ## Both streams -/

/-- Output that is being captured. -/
structure Capture where
  output : String
  out : Source
  err : Source
  deriving DecidableEq, Repr

namespace Capture

/-- Nothing has been printed yet. -/
def empty : Capture := ⟨"", .writing [], .writing []⟩

/-- Keeps a line. -/
def pushLine (c : Capture) (line : String) : Capture :=
  { c with output := c.output ++ Text.trimmedEnd line }

/-- A stream of the run. -/
def source (c : Capture) : OutputStream → Source
  | .out => c.out
  | .err => c.err

/-- Replaces a stream. -/
def setSource (c : Capture) (s : OutputStream) (src : Source) : Capture :=
  match s with
  | .out => { c with out := src }
  | .err => { c with err := src }

/-- Keeps what a reader has taken; the end of a stream is nothing to keep. -/
def keep (c : Capture) : Option (List UInt8) → Capture
  | some line => c.pushLine (String.ofList (Text.Utf8.decodeLossy line))
  | none => c

/-- The turn of a reader that has something to take. -/
def take? (c : Capture) (s : OutputStream) : Option Capture :=
  (c.source s).next?.map fun p => (c.setSource s p.2).keep p.1

/-- Both readers have met the end. -/
def isDone (c : Capture) : Bool := c.out = .closed && c.err = .closed

/-! ## Everything that can happen -/

/-- Some bytes of a stream, or its end. -/
inductive Piece where
  | wrote (s : OutputStream) (bytes : List UInt8)
  | ended (s : OutputStream)
  deriving DecidableEq, Repr

/-- The run writes something, or a reader has its turn. -/
inductive Move where
  | came (p : Piece)
  | took (s : OutputStream)
  deriving DecidableEq, Repr

/-- What a move leads to, if it is possible. -/
def move? (c : Capture) : Move → Option Capture
  | .came (.wrote s bytes) => ((c.source s).write? bytes).map (c.setSource s)
  | .came (.ended s) => (c.source s).finish?.map (c.setSource s)
  | .took s => c.take? s

/-- What moves lead to, if they are possible one after the other. -/
def run? (c : Capture) (ms : List Move) : Option Capture := ms.foldlM move? c

/-! ## Readers that take everything at once -/

/-- Up to so many turns of a reader. -/
def takeUpTo (s : OutputStream) : Nat → Capture → Capture
  | 0, c => c
  | n + 1, c =>
    match c.take? s with
    | some c' => takeUpTo s n c'
    | none => c

/-- All turns that a reader can have now. -/
def takeAll (s : OutputStream) (c : Capture) : Capture := takeUpTo s (c.source s).size c

/-- Writes to a stream, and its reader takes the lines. -/
def write (c : Capture) (s : OutputStream) (bytes : List UInt8) : Capture :=
  ((c.move? (.came (.wrote s bytes))).map (takeAll s)).getD c

/-- Ends a stream, and its reader takes what is left. -/
def finish (c : Capture) (s : OutputStream) : Capture :=
  ((c.move? (.came (.ended s))).map (takeAll s)).getD c

end Capture

end LintServer
