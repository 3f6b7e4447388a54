import LintServer.Text.Utf8
import Mathlib.Data.List.Basic
import Mathlib.Tactic.SplitIfs

/-!
# Reading UTF-8 that has been written

Every character is written as one lead byte and the tail bytes that the lead byte calls for, so
reading gives the characters back one after the other. All bytes of a character above U+007F are
greater than 0x7F.

* `scanFrom_more`, `scanFrom_last`: a tail byte in range;
* `scanFrom_char`: one character;
* **`decode?_encode`**: a text that has been written is read back;
* `mem_encode_iff`: an ASCII byte stands for nothing but its character;
* `length_encode`: how many bytes a string has.
-/

namespace LintServer.Text.Utf8

variable {b : UInt8} {bs : List UInt8} {done : List (Option Char)} {c : Char} {cs : List Char}

/-! ## Lead bytes -/

theorem lead_one {n : Nat} (h : n ≤ 127) : lead (UInt8.ofNat n) = .char (Char.ofNat n) := by
  have hn : (UInt8.ofNat n).toNat = n := by
    rw [UInt8.toNat_ofNat']
    omega
  simp only [lead, hn]
  rw [if_pos (by omega)]

theorem lead_two {n : Nat} (h : 2 ≤ n) (h' : n < 32) :
    lead (UInt8.ofNat (n + 192)) = .opens ⟨1, 0x80, 0xBF, n⟩ := by
  have hn : (UInt8.ofNat (n + 192)).toNat = n + 192 := by
    rw [UInt8.toNat_ofNat']
    omega
  simp only [lead, hn]
  rw [if_neg (by omega), if_neg (by omega), if_pos (by omega), Nat.add_sub_cancel]

theorem lead_three {n : Nat} (h : n < 16) :
    lead (UInt8.ofNat (n + 224)) =
      .opens ⟨2, if n = 0 then 0xA0 else 0x80, if n = 13 then 0x9F else 0xBF, n⟩ := by
  have hn : (UInt8.ofNat (n + 224)).toNat = n + 224 := by
    rw [UInt8.toNat_ofNat']
    omega
  simp only [lead, hn]
  rw [if_neg (by omega), if_neg (by omega), if_neg (by omega), if_pos (by omega),
    Nat.add_sub_cancel]
  simp only [Nat.add_eq_right, show n + 224 = 237 ↔ n = 13 by omega]

theorem lead_four {n : Nat} (h : n < 5) :
    lead (UInt8.ofNat (n + 240)) =
      .opens ⟨3, if n = 0 then 0x90 else 0x80, if n = 4 then 0x8F else 0xBF, n⟩ := by
  have hn : (UInt8.ofNat (n + 240)).toNat = n + 240 := by
    rw [UInt8.toNat_ofNat']
    omega
  simp only [lead, hn]
  rw [if_neg (by omega), if_neg (by omega), if_neg (by omega), if_neg (by omega),
    if_pos (by omega), Nat.add_sub_cancel]
  simp only [Nat.add_eq_right, show n + 240 = 244 ↔ n = 4 by omega]

theorem scanFrom_opens {u : Unfinished} (h : lead b = .opens u) :
    scanFrom none (b :: bs) done = scanFrom (some u) bs done := by
  simp only [scanFrom, step, stepFresh, h]
  rfl

/-! ## Tail bytes -/

theorem step_tail {u : Unfinished} {n : Nat} (hlow : u.low.toNat ≤ n + 128)
    (hhigh : n + 128 ≤ u.high.toNat) :
    step (some u) (UInt8.ofNat (n + 128)) =
      if u.missing ≤ 1 then ([some (Char.ofNat (u.bits * 64 + n))], none)
      else ([], some ⟨u.missing - 1, 0x80, 0xBF, u.bits * 64 + n⟩) := by
  have hn : (UInt8.ofNat (n + 128)).toNat = n + 128 := by
    have := u.high.toNat_lt
    rw [UInt8.toNat_ofNat']
    omega
  have hrange : (u.low ≤ UInt8.ofNat (n + 128) && UInt8.ofNat (n + 128) ≤ u.high) = true := by
    simp only [Bool.and_eq_true, decide_eq_true_iff, UInt8.le_iff_toNat_le, hn]
    exact ⟨hlow, hhigh⟩
  rw [step, if_pos hrange, hn, Nat.add_sub_cancel]

theorem scanFrom_more {low high : UInt8} {m bits n : Nat} (hlow : low.toNat ≤ n + 128)
    (hhigh : n + 128 ≤ high.toNat) :
    scanFrom (some ⟨m + 2, low, high, bits⟩) (UInt8.ofNat (n + 128) :: bs) done =
      scanFrom (some ⟨m + 1, 0x80, 0xBF, bits * 64 + n⟩) bs done := by
  rw [scanFrom, step_tail hlow hhigh, if_neg (Nat.not_le.2 (Nat.lt_add_left m Nat.one_lt_two))]
  rfl

theorem scanFrom_last {low high : UInt8} {bits n : Nat} (hlow : low.toNat ≤ n + 128)
    (hhigh : n + 128 ≤ high.toNat) :
    scanFrom (some ⟨1, low, high, bits⟩) (UInt8.ofNat (n + 128) :: bs) done =
      scanFrom none bs (some (Char.ofNat (bits * 64 + n)) :: done) := by
  rw [scanFrom, step_tail hlow hhigh, if_pos (Nat.le_refl 1)]
  rfl

/-! ## One character -/

/-- Reading a character that has been written. The ranges of the second byte shut out what has a
shorter form, surrogates, and numbers beyond the last character. -/
theorem scanFrom_char (c : Char) (bs : List UInt8) (done : List (Option Char)) :
    scanFrom none (String.utf8EncodeChar c ++ bs) done = scanFrom none bs (some c :: done) := by
  have hvalid : c.val.toNat < 0xD800 ∨ 0xDFFF < c.val.toNat ∧ c.val.toNat < 0x110000 := c.valid
  have hc : Char.ofNat c.val.toNat = c := Char.ofNat_toNat c
  rw [String.utf8EncodeChar]
  generalize c.val.toNat = v at hvalid hc
  split_ifs with h1 h2 h3
  · simp only [List.cons_append, List.nil_append, scanFrom, step, stepFresh, lead_one h1, hc]
    rfl
  · have hbits : v / 64 % 32 * 64 + v % 64 = v := by omega
    simp only [List.cons_append, List.nil_append]
    rw [scanFrom_opens (lead_two (by omega) (by omega)),
      scanFrom_last (Nat.le_add_left _ _) (by change _ ≤ 191; omega), hbits, hc]
  · have hbits : (v / 4096 % 16 * 64 + v / 64 % 64) * 64 + v % 64 = v := by omega
    simp only [List.cons_append, List.nil_append]
    rw [scanFrom_opens (lead_three (by omega)), scanFrom_more, scanFrom_last, hbits, hc]
    · exact Nat.le_add_left _ _
    · change _ ≤ 191
      omega
    · split_ifs with h
      · change 160 ≤ _
        omega
      · exact Nat.le_add_left _ _
    · split_ifs with h
      · change _ ≤ 159
        omega
      · change _ ≤ 191
        omega
  · have hbits : ((v / 262144 % 8 * 64 + v / 4096 % 64) * 64 + v / 64 % 64) * 64 + v % 64 = v := by
      omega
    simp only [List.cons_append, List.nil_append]
    rw [scanFrom_opens (lead_four (by omega)), scanFrom_more, scanFrom_more, scanFrom_last, hbits,
      hc]
    · exact Nat.le_add_left _ _
    · change _ ≤ 191
      omega
    · exact Nat.le_add_left _ _
    · change _ ≤ 191
      omega
    · split_ifs with h
      · change 144 ≤ _
        omega
      · exact Nat.le_add_left _ _
    · split_ifs with h
      · change _ ≤ 143
        omega
      · change _ ≤ 191
        omega

/-! ## Texts -/

theorem encode_append (cs cs' : List Char) : encode (cs ++ cs') = encode cs ++ encode cs' :=
  List.flatMap_append

theorem scanFrom_encode (cs : List Char) (done : List (Option Char)) :
    scanFrom none (encode cs) done = done.reverse ++ cs.map some := by
  induction cs generalizing done with
  | nil => exact (List.append_nil _).symm
  | cons c cs ih =>
    rw [encode, List.flatMap_cons, scanFrom_char, ← encode, ih, List.reverse_cons, List.map_cons,
      List.append_assoc]
    rfl

/-- **A text that has been written is read back.** -/
theorem decode?_encode (cs : List Char) : decode? (encode cs) = some cs := by
  rw [decode?, scan, scanFrom_encode, List.reverse_nil, List.nil_append, List.mapM_map]
  exact (List.mapM_pure (m := Option) (f := id)).trans (congrArg some (List.map_id cs))

theorem eq_of_mem_char (hb : b ∈ String.utf8EncodeChar c) (hle : b.toNat ≤ 0x7F) :
    c.toNat = b.toNat := by
  rw [String.utf8EncodeChar] at hb
  change b ∈ if c.toNat ≤ 127 then _ else _ at hb
  split_ifs at hb with h1 h2 h3 <;> simp only [List.mem_cons, List.not_mem_nil, or_false] at hb
  · rw [hb, UInt8.toNat_ofNat']
    change c.toNat = c.toNat % _
    omega
  · rcases hb with rfl | rfl <;> rw [UInt8.toNat_ofNat'] at hle <;> omega
  · rcases hb with rfl | rfl | rfl <;> rw [UInt8.toNat_ofNat'] at hle <;> omega
  · rcases hb with rfl | rfl | rfl | rfl <;> rw [UInt8.toNat_ofNat'] at hle <;> omega

/-- An ASCII byte stands for nothing but its character. -/
theorem mem_encode_iff (hc : c.toNat ≤ 0x7F) : UInt8.ofNat c.toNat ∈ encode cs ↔ c ∈ cs := by
  have hn : (UInt8.ofNat c.toNat).toNat = c.toNat := by
    rw [UInt8.toNat_ofNat']
    omega
  rw [encode, List.mem_flatMap]
  constructor
  · rintro ⟨c', hc', hb⟩
    have h := eq_of_mem_char hb (hn.symm ▸ hc)
    rw [hn] at h
    rwa [← Char.toNat_inj.1 h]
  · refine fun h => ⟨c, h, ?_⟩
    rw [String.utf8EncodeChar]
    change _ ∈ if c.toNat ≤ 127 then _ else _
    rw [if_pos hc]
    exact List.mem_cons_self

theorem length_encode (s : String) : (encode s.toList).length = s.utf8ByteSize := by
  change _ = s.toByteArray.size
  rw [← String.utf8Encode_toList, List.utf8Encode, List.size_toByteArray]
  rfl

end LintServer.Text.Utf8
