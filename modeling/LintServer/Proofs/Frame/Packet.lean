import LintServer.Proofs.Frame.Header

/-!
# Streams of frames

A frame in a stream is a header of lines, one of which at least gives the length of the body, the
blank line that ends the header, and the body, whatever its bytes. Reading takes exactly these bytes,
so it stands at the next frame whether or not the body was a JSON text.

* `Line`, `Packet`: lines and frames that follow the grammar;
* `readHeader_lines`, `read_packet`: a header is read up to its body, and a frame up to the next one;
* **`readAll_packets`**: a stream of frames is read frame by frame.
-/

namespace LintServer.Frame

open Text (isBlank trim)

/-- The length that a line gives. -/
def HeaderLine.length? : HeaderLine → Option Nat
  | length n => some n
  | _ => none

/-- A header line that follows the grammar. -/
structure Line where
  text : List Char
  meaning : HeaderLine
  newline_not_mem : '\n' ∉ text
  said : Says text meaning

/-- The line that gives a length behind a name and a colon. -/
def Line.ofLength (name value : List Char) (n : Nat) (hnewline : '\n' ∉ name ++ ':' :: value)
    (hcolon : ':' ∉ name) (hname : isLengthName (trim name) = true)
    (hvalue : Denotes (trim value) n) : Line where
  text := name ++ ':' :: value
  meaning := .length n
  newline_not_mem := hnewline
  said := .length rfl hcolon ((isLengthName_iff _).1 hname) hvalue

/-- A line of blanks. -/
def Line.ofBlanks (text : List Char) (hnewline : '\n' ∉ text)
    (hblank : ∀ c ∈ text, isBlank c = true) : Line :=
  ⟨text, .blank, hnewline, .blank hblank⟩

/-- The bytes of a line, the newline included. -/
def Line.bytes (l : Line) : List UInt8 := Text.Utf8.encode l.text ++ [0x0A]

/-- The length that is given last. -/
def lastLength? (lines : List Line) : Option Nat := (lines.filterMap fun l => l.meaning.length?).getLast?

/-- A frame that follows the grammar. -/
structure Packet where
  lines : List Line
  /-- The blank line behind the header. -/
  ending : Line
  body : List UInt8
  lines_not_blank : ∀ l ∈ lines, l.meaning ≠ .blank
  ending_blank : ending.meaning = .blank
  lastLength_eq : lastLength? lines = some body.length
  length_le : body.length ≤ maxLength

/-- The bytes of a frame. -/
def Packet.bytes (p : Packet) : List UInt8 :=
  p.lines.flatMap Line.bytes ++ p.ending.bytes ++ p.body

variable (ended : Bool)

/-! ## Headers -/

theorem newline_not_mem_encode (l : Line) : 0x0A ∉ Text.Utf8.encode l.text := fun h =>
  l.newline_not_mem ((Text.Utf8.mem_encode_iff (c := '\n') (by decide)).1 h)

theorem readHeader_bytes (length : Option Nat) (started : Bool) (l : Line) (rest : List UInt8) :
    readHeader ended ⟨[], length, started⟩ (l.bytes ++ rest) =
      match l.meaning with
      | .blank => readBody ended length rest
      | .length n => readHeader ended ⟨[], some n, true⟩ rest
      | .other => readHeader ended ⟨[], length, true⟩ rest := by
  rw [Line.bytes, List.append_assoc, List.singleton_append,
    readHeader_line ended _ (newline_not_mem_encode l), List.reverse_nil, List.nil_append,
    judge_encode, judgeText_of_says l.said]
  cases l.meaning <;> rfl

theorem lastLength?_cons (l : Line) (lines : List Line) :
    lastLength? (l :: lines) = (lastLength? lines).or l.meaning.length? := by
  unfold lastLength?
  rw [List.filterMap_cons]
  cases l.meaning.length? with
  | none => rw [Option.or_none]
  | some n =>
    rw [List.getLast?_cons]
    cases (lines.filterMap fun l => l.meaning.length?).getLast? <;> rfl

/-- A header is read up to its body; the length that was given last counts. -/
theorem readHeader_lines {lines : List Line} (hlines : ∀ l ∈ lines, l.meaning ≠ .blank) {ending : Line}
    (hending : ending.meaning = .blank) (length : Option Nat) (started : Bool) (rest : List UInt8) :
    readHeader ended ⟨[], length, started⟩ (lines.flatMap Line.bytes ++ ending.bytes ++ rest) =
      readBody ended ((lastLength? lines).or length) rest := by
  induction lines generalizing length started with
  | nil =>
    rw [List.flatMap_nil, List.nil_append, readHeader_bytes, hending]
    rfl
  | cons l lines ih =>
    have ih := ih fun l hl => hlines l (List.mem_cons_of_mem _ hl)
    have hl := hlines l List.mem_cons_self
    rw [List.flatMap_cons, List.append_assoc, List.append_assoc, readHeader_bytes,
      lastLength?_cons, Option.or_assoc, ← List.append_assoc]
    cases hs : l.meaning with
    | blank => exact absurd hs hl
    | length n => exact ih (some n) true
    | other => exact ih length true

theorem readBody_append {body : List UInt8} (hbody : body.length ≤ maxLength) (rest : List UInt8) :
    readBody ended (some body.length) (body ++ rest) = .body body rest := by
  rw [readBody]
  simp [Nat.not_lt.2 hbody]

theorem read_packet (p : Packet) (rest : List UInt8) :
    read ended (p.bytes ++ rest) = .body p.body rest := by
  rw [read, Packet.bytes, List.append_assoc,
    readHeader_lines ended p.lines_not_blank p.ending_blank, p.lastLength_eq, Option.or_none]
  exact readBody_append ended p.length_le rest

/-! ## Streams -/

theorem readItems_packets (ps : List Packet) {fuel : Nat} (hfuel : ps.length < fuel)
    (done : List Item) :
    readItems fuel done (ps.flatMap Packet.bytes) =
      done.reverse ++ ps.map (fun p => Item.ofBody p.body) ++ [.closed] := by
  induction ps generalizing fuel done with
  | nil =>
    obtain ⟨fuel, rfl⟩ := Nat.exists_eq_succ_of_ne_zero (Nat.ne_of_gt hfuel)
    simp [readItems, read, readHeader]
  | cons p ps ih =>
    obtain ⟨fuel, rfl⟩ := Nat.exists_eq_succ_of_ne_zero (Nat.ne_of_gt (Nat.zero_lt_of_lt hfuel))
    rw [List.flatMap_cons, readItems, read_packet]
    change readItems fuel (Item.ofBody p.body :: done) (ps.flatMap Packet.bytes) = _
    rw [ih (Nat.lt_of_succ_lt_succ hfuel), List.reverse_cons, List.map_cons]
    simp

theorem length_le_flatMap (ps : List Packet) : ps.length ≤ (ps.flatMap Packet.bytes).length := by
  induction ps with
  | nil => exact Nat.le_refl 0
  | cons p ps ih =>
    have hp : 0 < p.bytes.length := by
      simp only [Packet.bytes, Line.bytes, List.length_append, List.length_singleton]
      omega
    rw [List.flatMap_cons, List.length_cons, List.length_append]
    omega

/-- **A stream of frames is read frame by frame**, and then comes the clean end. What a body gives
depends on this body alone, and what follows a body is the same whether or not it is a JSON text. -/
theorem readAll_packets :
    (∀ ps : List Packet, readAll (ps.flatMap Packet.bytes) =
      ps.map (fun p => match Json.ofBytes? p.body with
        | some v => .value v
        | none => .malformed) ++ [.closed]) ∧
    ∀ (ended : Bool) (p : Packet) (rest : List UInt8),
      read ended (p.bytes ++ rest) = .body p.body rest :=
  ⟨fun ps => readItems_packets ps (Nat.lt_succ_of_le (length_le_flatMap ps)) [], read_packet⟩

/-- A body that is a blank line and a byte of no text, in the length that is given last, stands
between two values. -/
theorem malformed_body_between_values :
    let first := Text.Utf8.encode "CONTENT-length : 3\n\n[1]".toList
    let hostile := Text.Utf8.encode "Content-Length: 99\r\nX\r\ncontent-length:+2\r\n\r\n".toList ++
      [0x0A, 0xFF]
    let last := Text.Utf8.encode "Content-Length:4\n \nnull".toList
    readAll (first ++ hostile ++ last) =
      [.value (.array [.number (.int 1)]), .malformed, .value .null, .closed] := by
  intro first hostile last
  let p : Packet :=
    { lines := [.ofLength "CONTENT-length ".toList " 3".toList 3 (by decide) (by decide)
        (by decide) ⟨['3'], .inl rfl, by decide, by decide⟩]
      ending := .ofBlanks [] nofun nofun
      body := Text.Utf8.encode "[1]".toList
      lines_not_blank := List.forall_mem_singleton.2 nofun
      ending_blank := rfl
      lastLength_eq := by decide
      length_le := by decide }
  let q : Packet :=
    { lines := [.ofLength "Content-Length".toList " 99\r".toList 99 (by decide) (by decide)
          (by decide) ⟨['9', '9'], .inl rfl, by decide, by decide⟩,
        ⟨"X\r".toList, .other, by decide, .other ⟨'X', by decide, by decide⟩
          fun name value h => absurd (h ▸ List.mem_append_right name List.mem_cons_self) (by decide)⟩,
        .ofLength "content-length".toList "+2\r".toList 2 (by decide) (by decide) (by decide)
          ⟨['2'], .inr rfl, by decide, by decide⟩]
      ending := .ofBlanks ['\r'] (by decide) (List.forall_mem_singleton.2 rfl)
      body := [0x0A, 0xFF]
      lines_not_blank := by decide
      ending_blank := rfl
      lastLength_eq := by decide
      length_le := by decide }
  let r : Packet :=
    { lines := [.ofLength "Content-Length".toList "4".toList 4 (by decide) (by decide)
        (by decide) ⟨['4'], .inl rfl, by decide, by decide⟩]
      ending := .ofBlanks [' '] (by decide) (List.forall_mem_singleton.2 rfl)
      body := Text.Utf8.encode "null".toList
      lines_not_blank := List.forall_mem_singleton.2 nofun
      ending_blank := rfl
      lastLength_eq := by decide
      length_le := by decide }
  have hbytes : first ++ hostile ++ last = [p, q, r].flatMap Packet.bytes := by decide +kernel
  have hp : Json.ofBytes? p.body = some (.array [.number (.int 1)]) := by rfl
  have hq : Json.ofBytes? q.body = none := by decide +kernel
  have hr : Json.ofBytes? r.body = some .null := by rfl
  rw [hbytes, readAll_packets.1]
  simp only [List.map_cons, List.map_nil, hp, hq, hr]
  rfl

end LintServer.Frame
