import LintServer.Json.Literal
import Mathlib.Tactic.SplitIfs

/-!
# Reading string literals that have been written

* `readAfterQuote_escape`: what stands in a literal for a character is read as this character;
* **`read?_chars`**: a literal that has been written is read back, whatever follows it;
* `chars_append_inj`: so a text that begins with a literal can be taken apart in one way only;
* `toList_write`: writing goes behind what has been written before.
-/

namespace LintServer.Json.Literal

/-! ## Reading -/

theorem hexValue?_hexDigit : ∀ n < 16, hexValue? (hexDigit n) = some n := by decide

theorem readAfterQuote_unescape {e c : Char} (he : unescape? e = some c) (hu : e ≠ 'u')
    (done rest : List Char) :
    readAfterQuote done ('\\' :: e :: rest) = readAfterQuote (c :: done) rest := by
  rw [readAfterQuote]
  · simp only [he]
  · rintro a b c d rest' rfl
    exact absurd rfl hu

/-- A control character is written by its number, which is no half of a surrogate pair. -/
theorem readAfterQuote_control {c : Char} (hc : c.toNat < 0x20) (done rest : List Char) :
    readAfterQuote done ('\\' :: 'u' :: '0' :: '0' :: hexDigit (c.toNat / 16) ::
      hexDigit (c.toNat % 16) :: rest) = readAfterQuote (c :: done) rest := by
  have hunit : hexUnit? '0' '0' (hexDigit (c.toNat / 16)) (hexDigit (c.toNat % 16)) =
      some c.toNat := by
    have hzero : hexValue? '0' = some 0 := by decide
    simp only [hexUnit?, hzero, hexValue?_hexDigit (c.toNat / 16) (by omega),
      hexValue?_hexDigit (c.toNat % 16) (by omega), Option.bind_eq_bind, Option.bind_some]
    change some _ = some _
    congr 1
    omega
  have hhigh : isHighHalf c.toNat = false := by
    simp only [isHighHalf, Bool.and_eq_false_iff, decide_eq_false_iff_not]
    omega
  have hlow : isLowHalf c.toNat = false := by
    simp only [isLowHalf, Bool.and_eq_false_iff, decide_eq_false_iff_not]
    omega
  rw [readAfterQuote]
  simp only [hunit, hhigh, hlow, Char.ofNat_toNat]
  rfl

/-- What stands in a literal for a character is read as this character. -/
theorem readAfterQuote_escape (c : Char) (done rest : List Char) :
    readAfterQuote done (escape c ++ rest) = readAfterQuote (c :: done) rest := by
  unfold escape
  split_ifs with h1 h2 h3 h4 h5 h6 h7 h8
  · exact readAfterQuote_unescape (by rw [h1]; decide) (by decide) done rest
  · exact readAfterQuote_unescape (by rw [h2]; decide) (by decide) done rest
  · exact readAfterQuote_unescape (by rw [h3]; decide) (by decide) done rest
  · exact readAfterQuote_unescape (by rw [h4]; decide) (by decide) done rest
  · exact readAfterQuote_unescape (by rw [h5]; decide) (by decide) done rest
  · exact readAfterQuote_unescape (by rw [h6]; decide) (by decide) done rest
  · exact readAfterQuote_unescape (by rw [h7]; decide) (by decide) done rest
  · exact readAfterQuote_control h8 done rest
  · rw [List.singleton_append, readAfterQuote]
    · rw [if_neg]
      simp [h8, h2]
    · exact h1
    · rintro a b c d rest' rfl
      exact absurd rfl h2
    · rintro e rest' rfl
      exact absurd rfl h2

theorem readAfterQuote_flatMap (s done rest : List Char) :
    readAfterQuote done (s.flatMap escape ++ '"' :: rest) = some (done.reverse ++ s, rest) := by
  induction s generalizing done with
  | nil => rw [List.flatMap_nil, List.nil_append, readAfterQuote, List.append_nil]
  | cons c s ih =>
    rw [List.flatMap_cons, List.append_assoc, readAfterQuote_escape, ih, List.reverse_cons,
      List.append_assoc, List.singleton_append]

/-- **A literal that has been written is read back**, whatever follows it. -/
theorem read?_chars (s rest : List Char) :
    read? (s.flatMap escape ++ '"' :: rest) = some (s, rest) :=
  readAfterQuote_flatMap s [] rest

/-- A literal tells by itself where it ends. -/
theorem chars_append_inj {s s' t t' : List Char} :
    chars s ++ t = chars s' ++ t' ↔ s = s' ∧ t = t' := by
  refine ⟨fun h => ?_, fun ⟨hs, ht⟩ => by rw [hs, ht]⟩
  have hread : ∀ s t : List Char, (chars s ++ t).tail = s.flatMap escape ++ '"' :: t := by
    intro s t
    show s.flatMap escape ++ ['"'] ++ t = _
    rw [List.append_assoc, List.singleton_append]
  have hboth := congrArg (fun cs => read? cs.tail) h
  simp only [hread, read?_chars, Option.some.injEq, Prod.mk.injEq] at hboth
  exact hboth

/-! ## Writing -/

theorem toList_foldl_push (cs : List Char) (out : String) :
    (cs.foldl String.push out).toList = out.toList ++ cs := by
  induction cs generalizing out with
  | nil => exact (List.append_nil _).symm
  | cons c cs ih => rw [List.foldl_cons, ih, String.toList_push, List.append_assoc]; rfl

theorem toList_foldl_escape (s : List Char) (out : String) :
    (s.foldl (fun out c => (escape c).foldl String.push out) out).toList =
      out.toList ++ s.flatMap escape := by
  induction s generalizing out with
  | nil => exact (List.append_nil _).symm
  | cons c s ih =>
    rw [List.foldl_cons, ih, toList_foldl_push, List.flatMap_cons, List.append_assoc]

theorem toList_write (out s : String) : (write out s).toList = out.toList ++ chars s.toList := by
  rw [write, String.toList_push, toList_foldl_escape, String.toList_push, chars]
  simp

end LintServer.Json.Literal
