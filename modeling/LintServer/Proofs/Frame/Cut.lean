import LintServer.Proofs.Frame.RoundTrip
import LintServer.Proofs.Frame.Verdict

/-!
# Streams that are cut off

A written stream that ends between two frames has been read to its clean end. One that ends inside a
frame gives the frames in front of it and then a mistake: a header that is cut off has no line that
ends it, or ends with the carriage return of that line, behind which the whole body is missing, and a
body that is cut off is too short.

* `read_take_bytes`: a frame that is cut off is refused;
* `readAll_packets_append`, `readAll_append`: what stands behind frames;
* **`cut_stream_refused`**: every cut of a written stream.
-/

namespace LintServer.Frame

variable {v : Json} {vs : List Json}

/-! ## One frame -/

theorem readBody_short {n : Nat} {s : List UInt8} (hs : s.length < n) :
    ∃ e, readBody true (some n) s = .failed e := by
  rcases Nat.lt_or_ge maxLength n with h | h
  · exact ⟨_, readBody_of_answersBody (.oversized h)⟩
  · exact ⟨_, readBody_of_answersBody (.short h hs)⟩

/-- A stream that ends inside a line of a header is refused: even if what there is of the line is
blank, the body that was announced is missing. -/
theorem readHeader_cut {line : List UInt8} (hline : 0x0A ∉ line) {length : Option Nat}
    (hlength : ∀ n ∈ length, 0 < n) {started : Bool} (hne : line ≠ [] ∨ started = true) :
    ∃ e, readHeader true ⟨[], length, started⟩ line = .failed e := by
  by_cases hnil : line = []
  · obtain rfl : started = true := hne.resolve_left fun h => h hnil
    rw [hnil]
    exact ⟨_, rfl⟩
  rw [readHeader_last hnil hline]
  cases judge line with
  | error e => exact ⟨e, rfl⟩
  | ok meaning =>
    cases meaning with
    | blank =>
      cases length with
      | none => exact ⟨_, rfl⟩
      | some n => exact readBody_short (hlength n rfl)
    | length n | other => exact ⟨_, rfl⟩

/-- A cut falls into the text of a line, or behind its newline. -/
theorem take_line (l : Line) (rest : List UInt8) (n : Nat) :
    n ≤ (Text.Utf8.encode l.text).length ∧
        (l.bytes ++ rest).take n = (Text.Utf8.encode l.text).take n ∨
      l.bytes.length ≤ n ∧ (l.bytes ++ rest).take n = l.bytes ++ rest.take (n - l.bytes.length) := by
  rcases Nat.lt_or_ge n l.bytes.length with h | h
  · have hn : n ≤ (Text.Utf8.encode l.text).length := by
      rw [Line.bytes, List.length_append, List.length_singleton] at h
      omega
    rw [Line.bytes, List.append_assoc]
    exact .inl ⟨hn, List.take_append_of_le_length hn⟩
  · exact .inr ⟨h, by rw [List.take_append, List.take_of_length_le h]⟩

theorem newline_not_mem_take (l : Line) (n : Nat) : 0x0A ∉ (Text.Utf8.encode l.text).take n :=
  fun h => newline_not_mem_encode l (List.mem_of_mem_take h)

/-- The frame of a value: a line with the length, the line that ends the header, and the text. -/
theorem exists_lengthLine (h : v.render.utf8ByteSize ≤ maxLength) :
    ∃ l : Line, l.meaning = .length (Text.Utf8.encode v.render.toList).length ∧
      bytes v = l.bytes ++ (endLine.bytes ++ Text.Utf8.encode v.render.toList) := by
  refine ⟨lengthLine v.render.utf8ByteSize (h.trans (by decide)), ?_, ?_⟩
  · exact congrArg HeaderLine.length (Text.Utf8.length_encode _).symm
  · rw [← bytes_ofJson v h, Packet.bytes, List.append_assoc]
    exact congrArg (· ++ _) (List.flatMap_singleton _ _)

theorem utf8ByteSize_render_pos (hplain : v.Plain) : 0 < v.render.utf8ByteSize := by
  obtain ⟨c, cs, hcs, -⟩ := hplain.head
  rw [← Text.Utf8.length_encode, Json.toList_render, hcs, Text.Utf8.encode, List.flatMap_cons,
    List.length_append, String.length_utf8EncodeChar]
  exact Nat.lt_add_right _ c.utf8Size_pos

theorem readHeader_take {body : List UInt8} (hbody : 0 < body.length) {n : Nat}
    (hn : n < (endLine.bytes ++ body).length) :
    ∃ e, readHeader true ⟨[], some body.length, true⟩ ((endLine.bytes ++ body).take n) =
      .failed e := by
  rcases take_line endLine body n with ⟨-, htake⟩ | ⟨hle, htake⟩
  · rw [htake]
    exact readHeader_cut (newline_not_mem_take _ _)
      (fun m hm => Option.some.inj hm ▸ hbody) (.inr rfl)
  · rw [htake, readHeader_bytes]
    rw [List.length_append] at hn
    refine readBody_short ?_
    rw [List.length_take]
    omega

theorem read_take_bytes (hplain : v.Plain) (hlength : v.render.utf8ByteSize ≤ maxLength) {n : Nat}
    (hpos : 0 < n) (hn : n < (bytes v).length) :
    ∃ e, read true ((bytes v).take n) = .failed e := by
  have hbody : 0 < (Text.Utf8.encode v.render.toList).length :=
    (Text.Utf8.length_encode _).symm ▸ utf8ByteSize_render_pos hplain
  obtain ⟨l, hmeaning, hbytes⟩ := exists_lengthLine hlength
  rw [hbytes] at hn ⊢
  rcases take_line l (endLine.bytes ++ Text.Utf8.encode v.render.toList) n with
    ⟨hle, htake⟩ | ⟨hle, htake⟩
  · have hnone : ∀ n ∈ (none : Option Nat), 0 < n := nofun
    rw [htake]
    refine readHeader_cut (newline_not_mem_take _ _) hnone (.inl fun hnil => ?_)
    have hzero := congrArg List.length hnil
    rw [List.length_take_of_le hle] at hzero
    exact absurd hzero hpos.ne'
  · rw [List.length_append] at hn
    rw [htake, read, readHeader_bytes, hmeaning]
    exact readHeader_take hbody (by omega)

/-! ## Streams -/

theorem readAll_packets_append (ps : List Packet) (s : List UInt8) :
    readAll (ps.flatMap Packet.bytes ++ s) = ps.map (fun p => Item.ofBody p.body) ++ readAll s := by
  induction ps with
  | nil => rfl
  | cons p ps ih =>
    rw [List.flatMap_cons, List.append_assoc, readAll_eq, read_packet]
    simp only [ih, List.map_cons, List.cons_append]

theorem readAll_append (hplain : ∀ v ∈ vs, v.Plain) (hdepth : ∀ v ∈ vs, v.depth ≤ 127)
    (hlength : ∀ v ∈ vs, v.render.utf8ByteSize ≤ maxLength) (s : List UInt8) :
    readAll (vs.flatMap bytes ++ s) = vs.map .value ++ readAll s := by
  obtain ⟨ps, hbytes, hitems⟩ := exists_packets hplain hdepth hlength
  rw [← hbytes, readAll_packets_append, hitems]

/-- Where a frame begins. -/
def offset (vs : List Json) (k : Nat) : Nat := ((vs.take k).flatMap bytes).length

theorem take_offset (vs : List Json) (k : Nat) :
    (vs.flatMap bytes).take (offset vs k) = (vs.take k).flatMap bytes := by
  have hsplit : vs.flatMap bytes = (vs.take k).flatMap bytes ++ (vs.drop k).flatMap bytes := by
    rw [← List.flatMap_append, List.take_append_drop]
  rw [hsplit]
  exact List.take_left' rfl

theorem take_inside {k n : Nat} (hlow : offset vs k < n) (hhigh : n < offset vs (k + 1)) :
    ∃ v ∈ vs, ∃ m, 0 < m ∧ m < (bytes v).length ∧
      (vs.flatMap bytes).take n = (vs.take k).flatMap bytes ++ (bytes v).take m := by
  have hk : k < vs.length := by
    by_contra hge
    unfold offset at hlow hhigh
    rw [List.take_of_length_le (by omega)] at hlow hhigh
    omega
  have hoffset : offset vs (k + 1) = offset vs k + (bytes vs[k]).length := by
    rw [offset, offset, List.take_succ_eq_append_getElem hk, List.flatMap_append,
      List.flatMap_singleton, List.length_append]
  refine ⟨vs[k], List.getElem_mem hk, n - offset vs k, by omega, by omega, ?_⟩
  have hsplit : vs.flatMap bytes =
      (vs.take k).flatMap bytes ++ (bytes vs[k] ++ (vs.drop (k + 1)).flatMap bytes) := by
    rw [← List.flatMap_cons, ← List.drop_eq_getElem_cons hk, ← List.flatMap_append,
      List.take_append_drop]
  rw [hsplit, List.take_append, List.take_of_length_le (Nat.le_of_lt hlow),
    List.take_append_of_le_length (by change n - offset vs k ≤ _; omega)]
  rfl

/-- **Every cut of a written stream** gives the values in front of it, and then the clean end or,
inside a frame, one mistake. -/
theorem cut_stream_refused (hplain : ∀ v ∈ vs, v.Plain) (hdepth : ∀ v ∈ vs, v.depth ≤ 127)
    (hlength : ∀ v ∈ vs, v.render.utf8ByteSize ≤ maxLength) :
    (∀ k, readAll ((vs.flatMap bytes).take (offset vs k)) = (vs.take k).map .value ++ [.closed]) ∧
    ∀ k n, offset vs k < n → n < offset vs (k + 1) →
      ∃ e, readAll ((vs.flatMap bytes).take n) = (vs.take k).map .value ++ [.failed e] := by
  have hfront : ∀ k s, readAll ((vs.take k).flatMap bytes ++ s) =
      (vs.take k).map .value ++ readAll s := fun k s =>
    readAll_append (fun v hv => hplain v (List.mem_of_mem_take hv))
      (fun v hv => hdepth v (List.mem_of_mem_take hv))
      (fun v hv => hlength v (List.mem_of_mem_take hv)) s
  refine ⟨fun k => ?_, fun k n hlow hhigh => ?_⟩
  · rw [take_offset, ← List.append_nil ((vs.take k).flatMap bytes), hfront]
    rfl
  · obtain ⟨v, hv, m, hpos, hm, htake⟩ := take_inside hlow hhigh
    obtain ⟨e, he⟩ := read_take_bytes (hplain v hv) (hlength v hv) hpos hm
    exact ⟨e, by rw [htake, hfront, readAll_eq, he]⟩

/-- The cut leaves the first of two digits of a length. -/
theorem cut_within_length_refused :
    ∃ e, readAll (([.null, .string "0123456789"].flatMap bytes).take 42) =
      [.value .null, .failed e] := by
  refine (@cut_stream_refused [.null, .string "0123456789"] ?_ (by decide) (by decide)).2 1 42
    (by decide) (by decide)
  exact List.forall_mem_cons.2 ⟨.null, List.forall_mem_singleton.2 (.string _)⟩

end LintServer.Frame
