/-!
# UTF-8

Bytes are read one at a time. A lead byte opens a character and fixes the range of the byte that
may follow it; a byte outside that range ends the unfinished character as one invalid part and is
itself read afresh, so that every maximal invalid part counts once.

* `Utf8.step`, `Utf8.scan`: the reading, with `none` for an invalid part;
* `Utf8.decode?`: the strict reading, `Utf8.decodeLossy`: U+FFFD for each invalid part;
* `Utf8.encode`: the bytes of a text.
-/

namespace LintServer.Text.Utf8

/-- A character that has been opened and still misses tail bytes. -/
structure Unfinished where
  /-- How many tail bytes are to come. -/
  missing : Nat
  /-- The least value of the next one. -/
  low : UInt8
  /-- The greatest value of the next one. -/
  high : UInt8
  /-- The code point as far as it has been read. -/
  bits : Nat
  deriving DecidableEq, Repr

/-- What one byte gives when no character is unfinished. -/
inductive Lead where
  | char (c : Char)
  | opens (u : Unfinished)
  | invalid
  deriving DecidableEq, Repr

/-- The role of a byte at the start of a character. -/
def lead (b : UInt8) : Lead :=
  let n := b.toNat
  if n < 0x80 then .char (Char.ofNat n)
  else if n < 0xC2 then .invalid
  else if n < 0xE0 then .opens ⟨1, 0x80, 0xBF, n - 0xC0⟩
  else if n < 0xF0 then
    .opens ⟨2, if n = 0xE0 then 0xA0 else 0x80, if n = 0xED then 0x9F else 0xBF, n - 0xE0⟩
  else if n < 0xF5 then
    .opens ⟨3, if n = 0xF0 then 0x90 else 0x80, if n = 0xF4 then 0x8F else 0xBF, n - 0xF0⟩
  else .invalid

/-- Reads a byte at the start of a character. -/
def stepFresh (b : UInt8) : List (Option Char) × Option Unfinished :=
  match lead b with
  | .char c => ([some c], none)
  | .opens u => ([], some u)
  | .invalid => ([none], none)

/-- Reads a byte: the characters and invalid parts that it completes, and what stays open. -/
def step : Option Unfinished → UInt8 → List (Option Char) × Option Unfinished
  | none, b => stepFresh b
  | some u, b =>
    if u.low ≤ b && b ≤ u.high then
      let bits := u.bits * 64 + (b.toNat - 0x80)
      if u.missing ≤ 1 then ([some (Char.ofNat bits)], none)
      else ([], some ⟨u.missing - 1, 0x80, 0xBF, bits⟩)
    else
      let r := stepFresh b
      (none :: r.1, r.2)

/-- Reads all bytes from a state, in front of what has been read so far (last first). -/
def scanFrom : Option Unfinished → List UInt8 → List (Option Char) → List (Option Char)
  | none, [], done => done.reverse
  | some _, [], done => (none :: done).reverse
  | u, b :: bs, done =>
    let r := step u b
    scanFrom r.2 bs (r.1.reverseAux done)

/-- The characters of a byte sequence, with `none` for each maximal invalid part. -/
def scan (bs : List UInt8) : List (Option Char) := scanFrom none bs []

/-- The text that the bytes encode, if no part of them is invalid. -/
def decode? (bs : List UInt8) : Option (List Char) := (scan bs).mapM id

/-- The text that the bytes encode, with U+FFFD in place of every invalid part. -/
def decodeLossy (bs : List UInt8) : List Char := (scan bs).map fun c => c.getD '\uFFFD'

/-- The bytes of a text. -/
def encode (cs : List Char) : List UInt8 := cs.flatMap String.utf8EncodeChar

/-- The number of bytes of a text. -/
def size (cs : List Char) : Nat := cs.foldl (fun n c => n + c.utf8Size) 0

end LintServer.Text.Utf8
