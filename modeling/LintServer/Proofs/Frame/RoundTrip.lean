import LintServer.Proofs.Frame.Packet
import LintServer.Proofs.Json.RoundTrip

/-!
# Reading frames that have been written

The frame of a value follows the grammar: one line with the length in decimal digits, the line that
ends the header, and the text of the value, whose length is counted in bytes.

* `Packet.ofJson`: the frame of a value, taken apart;
* **`readAll_bytes`**: frames that have been written are read back.
-/

namespace LintServer.Frame

open Text (isBlank isAsciiDigit trim trimStart)

/-! ## The length -/

theorem denotes_toDigits {n : Nat} (hn : n ≤ maxNumber) : Denotes (Nat.toDigits 10 n) n := by
  refine ⟨_, .inl rfl, ?_, hn⟩
  rw [Text.readNat?, List.all_eq_true.2 (Text.isAsciiDigit_of_mem_toDigits n),
    Text.digitsValue_toDigits, if_pos (by simp [Nat.toDigits_ne_nil])]

theorem trim_digits (n : Nat) : trim (' ' :: (Nat.toDigits 10 n ++ ['\r'])) = Nat.toDigits 10 n := by
  have hdigits : ∀ c ∈ Nat.toDigits 10 n, isBlank c = false := fun c hc =>
    Text.isBlank_of_isAsciiDigit (Text.isAsciiDigit_of_mem_toDigits n c hc)
  calc trim (' ' :: (Nat.toDigits 10 n ++ ['\r']))
      = trim (Nat.toDigits 10 n ++ ['\r']) := rfl
    _ = trim (Nat.toDigits 10 n) := Text.trim_append_of_blank _ _ (List.forall_mem_singleton.2 rfl)
    _ = Nat.toDigits 10 n := Text.trim_eq_self hdigits

/-! ## Frames -/

/-- The name of the length, as it is written. -/
def lengthName : List Char := "Content-Length".toList

/-- The text of the line that gives the length of a body. -/
def lengthText (n : Nat) : List Char := lengthName ++ ':' :: ' ' :: (Nat.toDigits 10 n ++ ['\r'])

/-- The line that gives the length of a body. -/
def lengthLine (n : Nat) (hn : n ≤ maxNumber) : Line :=
  have hnewline : '\n' ∉ lengthText n := by
    have hdigits : '\n' ∉ Nat.toDigits 10 n := fun h =>
      absurd (Text.isAsciiDigit_of_mem_toDigits n _ h) (by decide)
    have hname : '\n' ∉ lengthName := by decide
    simp [lengthText, hdigits, hname]
  .ofLength lengthName (' ' :: (Nat.toDigits 10 n ++ ['\r'])) n hnewline (by decide) (by decide)
    ((trim_digits n).symm ▸ denotes_toDigits hn)

/-- The line that ends a header. -/
def endLine : Line := .ofBlanks ['\r'] (by decide) (List.forall_mem_singleton.2 rfl)

/-- The frame of a value, taken apart. -/
def Packet.ofJson (v : Json) (h : v.render.utf8ByteSize ≤ maxLength) : Packet where
  lines := [lengthLine v.render.utf8ByteSize (h.trans (by decide))]
  ending := endLine
  body := Text.Utf8.encode v.render.toList
  lines_not_blank := List.forall_mem_singleton.2 nofun
  ending_blank := rfl
  lastLength_eq := congrArg some (Text.Utf8.length_encode v.render).symm
  length_le := (Text.Utf8.length_encode v.render).trans_le h

theorem Line.bytes_eq (l : Line) : l.bytes = Text.Utf8.encode (l.text ++ ['\n']) :=
  (Text.Utf8.encode_append l.text ['\n']).symm

theorem toList_header (n : Nat) :
    (header n).toList = (lengthText n ++ ['\n']) ++ (['\r'] ++ ['\n']) := by
  have hdigits : (toString n).toList = Nat.toDigits 10 n := String.toList_ofList
  have hname : "Content-Length: ".toList = lengthName ++ [':', ' '] := by decide
  have hend : "\r\n\r\n".toList = ['\r', '\n', '\r', '\n'] := by decide
  calc (header n).toList
      = "Content-Length: ".toList ++ Nat.toDigits 10 n ++ "\r\n\r\n".toList := by
        rw [← hdigits, ← String.toList_append, ← String.toList_append]
        rfl
    _ = (lengthText n ++ ['\n']) ++ (['\r'] ++ ['\n']) := by
        rw [hname, hend, lengthText]
        simp only [List.append_assoc, List.cons_append, List.nil_append]

theorem bytes_ofJson (v : Json) (h : v.render.utf8ByteSize ≤ maxLength) :
    (Packet.ofJson v h).bytes = bytes v := by
  have hlines : (Packet.ofJson v h).lines.flatMap Line.bytes =
      Text.Utf8.encode (lengthText v.render.utf8ByteSize ++ ['\n']) :=
    (List.flatMap_singleton _ _).trans (Line.bytes_eq _)
  rw [bytes, write, String.toList_append, toList_header, Text.Utf8.encode_append,
    Text.Utf8.encode_append, Packet.bytes, hlines, Line.bytes_eq]
  rfl

/-! ## Streams -/

theorem exists_packets {vs : List Json} (hplain : ∀ v ∈ vs, v.Plain)
    (hdepth : ∀ v ∈ vs, v.depth ≤ Json.maxDepth)
    (hlength : ∀ v ∈ vs, v.render.utf8ByteSize ≤ maxLength) :
    ∃ ps : List Packet, ps.flatMap Packet.bytes = vs.flatMap bytes ∧
      ps.map (fun p => Item.ofBody p.body) = vs.map .value := by
  induction vs with
  | nil => exact ⟨[], rfl, rfl⟩
  | cons v vs ih =>
    obtain ⟨hplain, hplains⟩ := List.forall_mem_cons.1 hplain
    obtain ⟨hdepth, hdepths⟩ := List.forall_mem_cons.1 hdepth
    obtain ⟨hlength, hlengths⟩ := List.forall_mem_cons.1 hlength
    obtain ⟨ps, hbytes, hitems⟩ := ih hplains hdepths hlengths
    have hitem : Item.ofBody (Packet.ofJson v hlength).body = .value v := by
      rw [Item.ofBody, Packet.ofJson, Json.ofBytes?_render hplain hdepth]
    refine ⟨Packet.ofJson v hlength :: ps, ?_, ?_⟩
    · rw [List.flatMap_cons, List.flatMap_cons, bytes_ofJson, hbytes]
    · rw [List.map_cons, List.map_cons, hitem, hitems]

/-- **Frames that have been written are read back**, in order, and then comes the clean end. -/
theorem readAll_bytes {vs : List Json} (hplain : ∀ v ∈ vs, v.Plain)
    (hdepth : ∀ v ∈ vs, v.depth ≤ 127)
    (hlength : ∀ v ∈ vs, v.render.utf8ByteSize ≤ maxLength) :
    readAll (vs.flatMap bytes) = vs.map .value ++ [.closed] := by
  obtain ⟨ps, hbytes, hitems⟩ := exists_packets hplain hdepth hlength
  rw [← hbytes, readAll, readItems_packets ps (Nat.lt_succ_of_le (length_le_flatMap ps)) [],
    List.reverse_nil, List.nil_append, hitems]

/-- Keys and strings that are escaped or take several bytes, and the extreme whole numbers. -/
def extremes : Json :=
  .object [("\u0001\"", .array [.number (.int (-(2 ^ 63))), .number (.int (2 ^ 64 - 1))]),
    ("\u00e9", .string "\n\\\u2028𝄞")]

theorem extremes_read_back :
    readAll ([extremes, .null].flatMap bytes) = [.value extremes, .value .null, .closed] := by
  refine @readAll_bytes [extremes, .null] ?_ (by decide +kernel) (by decide +kernel)
  refine List.forall_mem_cons.2 ⟨?_, List.forall_mem_singleton.2 .null⟩
  refine .object (by decide +kernel) (List.forall_mem_cons.2 ⟨.array ?_, ?_⟩)
  · exact List.forall_mem_cons.2 ⟨.number (by decide) (by decide),
      List.forall_mem_singleton.2 (.number (by decide) (by decide))⟩
  · exact List.forall_mem_singleton.2 (.string _)

end LintServer.Frame
