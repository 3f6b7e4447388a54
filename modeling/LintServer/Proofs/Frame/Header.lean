import LintServer.Frame
import LintServer.Proofs.Text.Digit
import LintServer.Proofs.Text.Utf8
import Mathlib.Data.List.Forall2

/-!
# Header lines

The grammar of header lines, told apart from how they are read. A line gives a length if the name
before its first colon is that of the length, in letters of any case, and the value behind it is a
number of 64 bits; blanks around name and value do not count. A line of blanks ends the header, and
every other line says nothing.

* `IsName`, `Denotes`, `Says`: the grammar;
* **`judgeText_of_says`**: a line that follows the grammar is judged so;
* `readHeader_line`: reading takes one line after the other.
-/

namespace LintServer.Frame

open Text (trim trimStart trimEnd isBlank)

/-! ## The grammar -/

/-- The name of the length, in letters of any case. -/
def IsName (name : List Char) : Prop :=
  List.Forall₂ (fun c k => c = k ∨ c = k.toUpper) name "content-length".toList

/-- A text denotes a number of 64 bits: it is a row of digits, with or without a plus sign. -/
def Denotes (value : List Char) (n : Nat) : Prop :=
  ∃ ds, (value = ds ∨ value = '+' :: ds) ∧ Text.readNat? ds = some n ∧ n ≤ maxNumber

/-- What the text of a header line says. -/
inductive Says (line : List Char) : HeaderLine → Prop
  | blank (hblank : ∀ c ∈ line, isBlank c = true) : Says line .blank
  | length {name value : List Char} {n : Nat} (hline : line = name ++ ':' :: value)
      (hcolon : ':' ∉ name) (hname : IsName (trim name)) (hvalue : Denotes (trim value) n) :
      Says line (.length n)
  | other (hblank : ∃ c ∈ line, isBlank c = false)
      (hname : ∀ name value, line = name ++ ':' :: value → ':' ∉ name → ¬ IsName (trim name)) :
      Says line .other

/-! ## Names and values -/

theorem eq_toUpper_of_toLower (c : Char) : c = c.toLower ∨ c = c.toLower.toUpper := by
  unfold Char.toLower
  split_ifs with h
  · refine .inr (Char.ext ?_)
    have h1 : 65 ≤ c.val.toNat := UInt32.le_iff_toNat_le.1 h.1
    have h2 : c.val.toNat ≤ 90 := UInt32.le_iff_toNat_le.1 h.2
    have hsum : (c.val + ('a'.val - 'A'.val)).toNat = c.val.toNat + 32 := by
      rw [UInt32.toNat_add]
      change (c.val.toNat + 32) % _ = _
      omega
    have hlower : 'a'.val ≤ c.val + ('a'.val - 'A'.val) ∧
        c.val + ('a'.val - 'A'.val) ≤ 'z'.val := by
      rw [UInt32.le_iff_toNat_le, UInt32.le_iff_toNat_le, hsum]
      change 97 ≤ c.val.toNat + 32 ∧ c.val.toNat + 32 ≤ 122
      omega
    unfold Char.toUpper
    rw [dif_pos hlower]
    refine UInt32.toNat_inj.1 ?_
    change _ = ((c.val + ('a'.val - 'A'.val)) + ('A'.val - 'a'.val)).toNat
    rw [UInt32.toNat_add, hsum]
    change _ = (c.val.toNat + 32 + 4294967264) % _
    omega
  · exact .inl rfl

theorem map_toLower_eq_iff {ks : List Char}
    (hks : ∀ k ∈ ks, k.toLower = k ∧ k.toUpper.toLower = k) (name : List Char) :
    name.map Char.toLower = ks ↔ List.Forall₂ (fun c k => c = k ∨ c = k.toUpper) name ks := by
  induction ks generalizing name with
  | nil => simp
  | cons k ks ih =>
    cases name with
    | nil => simp
    | cons c name =>
      obtain ⟨hlower, hupper⟩ := hks k List.mem_cons_self
      rw [List.map_cons, List.cons.injEq, List.forall₂_cons,
        ih fun k' hk' => hks k' (List.mem_cons_of_mem _ hk')]
      refine and_congr_left fun _ => ⟨?_, ?_⟩
      · rintro rfl
        exact eq_toUpper_of_toLower c
      · rintro (rfl | rfl)
        · exact hlower
        · exact hupper

theorem isLengthName_iff (name : List Char) : isLengthName name = true ↔ IsName name := by
  have hlower : "content-length".toList.all
      (fun k => decide (k.toLower = k ∧ k.toUpper.toLower = k)) = true := by decide
  rw [isLengthName, decide_eq_true_iff]
  exact map_toLower_eq_iff (fun k hk => of_decide_eq_true (List.all_eq_true.1 hlower k hk)) name

theorem lengthOf?_of_denotes {value : List Char} {n : Nat} (h : Denotes value n) :
    lengthOf? value = some n := by
  obtain ⟨ds, rfl | rfl, hds, hn⟩ := h
  · unfold lengthOf?
    split
    · cases hds
    · exact Text.readWithin?_eq_some_iff.2 ⟨hds, hn⟩
  · exact Text.readWithin?_eq_some_iff.2 ⟨hds, hn⟩

/-! ## Lines -/

theorem span_no_colon {line : List Char} (h : ':' ∉ line) :
    line.span (· ≠ ':') = (line, []) := by
  have hspan := Text.span_append (p := (· ≠ ':')) (t := [])
    (fun c hc => decide_eq_true fun e => h (e ▸ hc)) nofun
  rwa [List.append_nil] at hspan

theorem mem_of_mem_trim {c : Char} {line : List Char} (h : c ∈ trim line) : c ∈ line := by
  unfold trim trimEnd trimStart at h
  have h' := (List.dropWhile_sublist _).subset (List.mem_reverse.1 h)
  exact (List.dropWhile_sublist _).subset (List.mem_reverse.1 h')

theorem judgeText_of_colon {name : List Char} (h : ':' ∉ name) (value : List Char) :
    judgeText (name ++ ':' :: value) =
      if isLengthName (trim name) then
        match lengthOf? (trim value) with
        | some n => .ok (.length n)
        | none => .error (.invalidLength (String.ofList (trim value)))
      else .ok .other := by
  have hname : ':' ∉ trimStart name := fun hc => h ((List.dropWhile_sublist _).subset hc)
  simp only [judgeText, Text.trim_append_cons (c := ':') (by decide), Text.span_append_cons hname,
    Text.trim_trimStart, Text.trim_trimEnd]
  exact if_neg (by simp)

theorem judgeText_of_no_colon {line : List Char} (h : ':' ∉ line)
    (hblank : ∃ c ∈ line, isBlank c = false) : judgeText line = .ok .other := by
  have hne : trim line ≠ [] := fun hnil => by
    obtain ⟨c, hc, hb⟩ := hblank
    rw [(Text.trim_eq_nil_iff line).1 hnil c hc] at hb
    cases hb
  simp only [judgeText, span_no_colon fun hc => h (mem_of_mem_trim hc)]
  rw [if_neg (by simpa using hne)]

/-- **A line that follows the grammar is judged so.** -/
theorem judgeText_of_says {line : List Char} {l : HeaderLine} (h : Says line l) :
    judgeText line = .ok l := by
  cases h with
  | blank hblank =>
    rw [judgeText, (Text.trim_eq_nil_iff line).2 hblank]
    rfl
  | length hline hcolon hname hvalue =>
    rw [hline, judgeText_of_colon hcolon, if_pos ((isLengthName_iff _).2 hname),
      lengthOf?_of_denotes hvalue]
  | other hblank hname =>
    by_cases hcolon : ':' ∈ line
    · obtain ⟨name, value, rfl, hfirst⟩ := List.eq_append_cons_of_mem hcolon
      rw [judgeText_of_colon hfirst, if_neg]
      exact fun h => hname name value rfl hfirst ((isLengthName_iff _).1 h)
    · exact judgeText_of_no_colon hcolon hblank

/-! ## Reading -/

theorem readHeader_line (ended : Bool) (h : Header) {line : List UInt8} (hline : 0x0A ∉ line)
    (rest : List UInt8) :
    readHeader ended h (line ++ 0x0A :: rest) =
      match judge (h.line.reverse ++ line) with
      | .error e => .failed e
      | .ok .blank => readBody ended h.length rest
      | .ok (.length n) => readHeader ended ⟨[], some n, true⟩ rest
      | .ok .other => readHeader ended ⟨[], h.length, true⟩ rest := by
  induction line generalizing h with
  | nil =>
    rw [List.nil_append, List.append_nil]
    exact if_pos rfl
  | cons b line ih =>
    obtain ⟨hb, hline⟩ := List.ne_and_not_mem_of_not_mem_cons hline
    rw [List.cons_append, readHeader, if_neg (Ne.symm hb), ih _ hline, List.reverse_cons,
      List.append_assoc]
    rfl

theorem judge_encode (text : List Char) : judge (Text.Utf8.encode text) = judgeText text := by
  rw [judge, Text.Utf8.decode?_encode]

end LintServer.Frame
