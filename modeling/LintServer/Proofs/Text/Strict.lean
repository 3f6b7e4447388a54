import LintServer.Proofs.Text.Lossy
import LintServer.Proofs.Text.Utf8

/-!
# Bytes that encode a text

The strict reading accepts nothing but what has been written: the ranges of the second byte leave
every character one form, so bytes in which nothing is invalid are the bytes of a text.

* `encodeChar_two`, `encodeChar_three`, `encodeChar_four`: the form of a character from its bits;
* `exists_tail`, `exists_char`: what may follow a lead byte, and a whole character;
* **`decode?_eq_some_iff`**: bytes are read as a text exactly if they are the bytes of it;
* `decode?_append_lineFeed`: a line end, read strictly.
-/

namespace LintServer.Text.Utf8

variable {b : UInt8} {bs : List UInt8} {cs : List Char} {u : Unfinished}

/-! ## Forms -/

theorem encodeChar_ofNat {n : Nat} (h : n.isValidChar) :
    String.utf8EncodeChar (Char.ofNat n) =
      if n ≤ 0x7F then [.ofNat n]
      else if n ≤ 0x7FF then [.ofNat (n / 64 % 32 + 0xC0), .ofNat (n % 64 + 0x80)]
      else if n ≤ 0xFFFF then
        [.ofNat (n / 4096 % 16 + 0xE0), .ofNat (n / 64 % 64 + 0x80), .ofNat (n % 64 + 0x80)]
      else [.ofNat (n / 262144 % 8 + 0xF0), .ofNat (n / 4096 % 64 + 0x80),
        .ofNat (n / 64 % 64 + 0x80), .ofNat (n % 64 + 0x80)] := by
  have hn : (Char.ofNat n).val.toNat = n := by
    rw [Char.ofNat, dif_pos h]
    rfl
  rw [String.utf8EncodeChar, hn]

theorem encodeChar_two {x y : Nat} (hx : 2 ≤ x) (hx' : x < 32) (hy : y < 64) :
    String.utf8EncodeChar (Char.ofNat (x * 64 + y)) = [.ofNat (x + 192), .ofNat (y + 128)] := by
  rw [encodeChar_ofNat (.inl (by omega)), if_neg (by omega), if_pos (by omega),
    show (x * 64 + y) / 64 % 32 = x by omega, show (x * 64 + y) % 64 = y by omega]

/-- The second byte leaves out what has a shorter form, and surrogates. -/
theorem encodeChar_three {x y z : Nat} (hx : x < 16) (hy : y < 64) (hz : z < 64)
    (hshort : x = 0 → 32 ≤ y) (hsurrogate : x = 13 → y < 32) :
    String.utf8EncodeChar (Char.ofNat ((x * 64 + y) * 64 + z)) =
      [.ofNat (x + 224), .ofNat (y + 128), .ofNat (z + 128)] := by
  have hvalid : ((x * 64 + y) * 64 + z).isValidChar := by
    unfold Nat.isValidChar
    omega
  rw [encodeChar_ofNat hvalid, if_neg (by omega), if_neg (by omega), if_pos (by omega),
    show ((x * 64 + y) * 64 + z) / 4096 % 16 = x by omega,
    show ((x * 64 + y) * 64 + z) / 64 % 64 = y by omega,
    show ((x * 64 + y) * 64 + z) % 64 = z by omega]

/-- The second byte leaves out what has a shorter form, and numbers beyond the last character. -/
theorem encodeChar_four {w x y z : Nat} (hw : w < 5) (hx : x < 64) (hy : y < 64) (hz : z < 64)
    (hshort : w = 0 → 16 ≤ x) (hlast : w = 4 → x < 16) :
    String.utf8EncodeChar (Char.ofNat (((w * 64 + x) * 64 + y) * 64 + z)) =
      [.ofNat (w + 240), .ofNat (x + 128), .ofNat (y + 128), .ofNat (z + 128)] := by
  have hvalid : (((w * 64 + x) * 64 + y) * 64 + z).isValidChar := .inr (by omega)
  rw [encodeChar_ofNat hvalid, if_neg (by omega), if_neg (by omega), if_neg (by omega),
    show (((w * 64 + x) * 64 + y) * 64 + z) / 262144 % 8 = w by omega,
    show (((w * 64 + x) * 64 + y) * 64 + z) / 4096 % 64 = x by omega,
    show (((w * 64 + x) * 64 + y) * 64 + z) / 64 % 64 = y by omega,
    show (((w * 64 + x) * 64 + y) * 64 + z) % 64 = z by omega]

/-! ## Lead bytes -/

theorem lead_eq_opens (h : lead b = .opens u) :
    (∃ x, 2 ≤ x ∧ x < 32 ∧ b = .ofNat (x + 192) ∧ u = ⟨1, 0x80, 0xBF, x⟩) ∨
    (∃ x < 16, b = .ofNat (x + 224) ∧
      u = ⟨2, if x = 0 then 0xA0 else 0x80, if x = 13 then 0x9F else 0xBF, x⟩) ∨
    ∃ x < 5, b = .ofNat (x + 240) ∧
      u = ⟨3, if x = 0 then 0x90 else 0x80, if x = 4 then 0x8F else 0xBF, x⟩ := by
  have hb : ∀ k ≤ b.toNat, b = .ofNat (b.toNat - k + k) := fun k hk => by
    rw [Nat.sub_add_cancel hk, UInt8.ofNat_toNat]
  have hlow : 0xC2 ≤ b.toNat := by
    by_contra hlt
    by_cases h1 : b.toNat < 0x80
    · simp only [lead, if_pos h1, reduceCtorEq] at h
    · simp only [lead, if_neg h1, if_pos (Nat.not_le.1 hlt), reduceCtorEq] at h
  by_cases h2 : b.toNat < 0xE0
  · have hlead := lead_two (n := b.toNat - 192) (by omega) (by omega)
    rw [← hb _ (by omega), h] at hlead
    exact .inl ⟨_, by omega, by omega, hb 192 (by omega), Lead.opens.inj hlead⟩
  by_cases h3 : b.toNat < 0xF0
  · have hlead := lead_three (n := b.toNat - 224) (by omega)
    rw [← hb _ (by omega), h] at hlead
    exact .inr (.inl ⟨_, by omega, hb 224 (by omega), Lead.opens.inj hlead⟩)
  have h4 : b.toNat < 0xF5 := by
    by_contra hge
    simp only [lead, if_neg (show ¬ b.toNat < 0x80 by omega), if_neg (Nat.not_lt.2 hlow), if_neg h2,
      if_neg h3, if_neg hge, reduceCtorEq] at h
  have hlead := lead_four (n := b.toNat - 240) (by omega)
  rw [← hb _ (by omega), h] at hlead
  exact .inr (.inr ⟨_, by omega, hb 240 (by omega), Lead.opens.inj hlead⟩)

theorem lead_eq_char {c : Char} (h : lead b = .char c) : [b] = String.utf8EncodeChar c := by
  have h1 : b.toNat < 0x80 := by
    by_contra hge
    simp only [lead, if_neg hge] at h
    split_ifs at h
  simp only [lead, if_pos h1, Lead.char.injEq] at h
  rw [← h, encodeChar_ofNat (.inl (by omega)), if_pos (by omega), UInt8.ofNat_toNat]

/-! ## Characters -/

/-- Only a tail byte in range follows a character that has been opened. -/
theorem exists_tail {m bits : Nat} {low high : UInt8} (hlow : 0x80 ≤ low.toNat)
    (h : none ∉ scanFrom (some ⟨m, low, high, bits⟩) bs []) :
    ∃ x rest, bs = .ofNat (x + 128) :: rest ∧ low.toNat ≤ x + 128 ∧ x + 128 ≤ high.toNat := by
  cases bs with
  | nil => exact absurd List.mem_cons_self h
  | cons t rest =>
    by_cases hrange : (low ≤ t && t ≤ high) = true
    · simp only [Bool.and_eq_true, decide_eq_true_iff, UInt8.le_iff_toNat_le] at hrange
      refine ⟨t.toNat - 128, rest, ?_, by omega, by omega⟩
      rw [Nat.sub_add_cancel (by omega), UInt8.ofNat_toNat]
    · refine absurd ?_ h
      rw [scanFrom_cons, step, if_neg hrange]
      exact List.mem_cons_self

theorem exists_tail_full {m bits : Nat} (h : none ∉ scanFrom (some ⟨m, 0x80, 0xBF, bits⟩) bs []) :
    ∃ x < 64, ∃ rest, bs = .ofNat (x + 128) :: rest := by
  obtain ⟨x, rest, hbs, -, hx⟩ := exists_tail (by decide) h
  change x + 128 ≤ 191 at hx
  exact ⟨x, by omega, rest, hbs⟩

/-- Bytes of which nothing is invalid start with a whole character. -/
theorem exists_char (h : none ∉ scan (b :: bs)) :
    ∃ c rest, b :: bs = String.utf8EncodeChar c ++ rest := by
  cases hlead : lead b with
  | char c => exact ⟨c, bs, congrArg (· ++ bs) (lead_eq_char hlead)⟩
  | invalid =>
    refine absurd ?_ h
    rw [scan, scanFrom_cons, step, stepFresh, hlead]
    exact List.mem_cons_self
  | opens u =>
    rw [scan, scanFrom_opens hlead] at h
    rcases lead_eq_opens hlead with ⟨x, hx, hx', rfl, rfl⟩ | ⟨x, hx, rfl, rfl⟩ | ⟨x, hx, rfl, rfl⟩
    · obtain ⟨y, hy, rest, rfl⟩ := exists_tail_full h
      exact ⟨_, rest, (congrArg (· ++ rest) (encodeChar_two hx hx' hy)).symm⟩
    · obtain ⟨y, rest, rfl, hlow, hhigh⟩ := exists_tail (by split_ifs <;> decide) h
      rw [scanFrom_more hlow hhigh] at h
      obtain ⟨z, hz, rest, rfl⟩ := exists_tail_full h
      have hy : y < 64 ∧ (x = 0 → 32 ≤ y) ∧ (x = 13 → y < 32) := by
        split_ifs at hlow hhigh <;> simp only [UInt8.reduceToNat] at hlow hhigh <;> omega
      exact ⟨_, rest, (congrArg (· ++ rest) (encodeChar_three hx hy.1 hz hy.2.1 hy.2.2)).symm⟩
    · obtain ⟨y, rest, rfl, hlow, hhigh⟩ := exists_tail (by split_ifs <;> decide) h
      rw [scanFrom_more hlow hhigh] at h
      obtain ⟨z, hz, rest, rfl⟩ := exists_tail_full h
      rw [scanFrom_more (Nat.le_add_left _ _) (Nat.add_le_add_right (Nat.le_of_lt_succ hz) _)] at h
      obtain ⟨w, hw, rest, rfl⟩ := exists_tail_full h
      have hy : y < 64 ∧ (x = 0 → 16 ≤ y) ∧ (x = 4 → y < 16) := by
        split_ifs at hlow hhigh <;> simp only [UInt8.reduceToNat] at hlow hhigh <;> omega
      exact ⟨_, rest, (congrArg (· ++ rest) (encodeChar_four hx hy.1 hz hw hy.2.1 hy.2.2)).symm⟩

/-! ## Texts -/

theorem exists_encode (h : none ∉ scan bs) : ∃ cs, bs = encode cs := by
  induction hn : bs.length using Nat.strongRecOn generalizing bs with
  | ind n ih =>
    cases bs with
    | nil => exact ⟨[], rfl⟩
    | cons b bs =>
      obtain ⟨c, rest, hbs⟩ := exists_char h
      rw [hbs] at h hn ⊢
      have hpos : 0 < (String.utf8EncodeChar c).length :=
        (String.length_utf8EncodeChar c).symm ▸ c.utf8Size_pos
      rw [scan, scanFrom_char, scanFrom_eq] at h
      obtain ⟨cs, rfl⟩ := ih rest.length (by rw [← hn, List.length_append]; omega)
        (fun hrest => h (List.mem_append_right _ hrest)) rfl
      exact ⟨c :: cs, rfl⟩

theorem mapM_id_eq_some {l : List (Option Char)} (h : l.mapM id = some cs) : l = cs.map some := by
  induction l generalizing cs with
  | nil =>
    cases h
    rfl
  | cons c l ih =>
    rw [List.mapM_cons] at h
    obtain ⟨d, hc, h⟩ := Option.bind_eq_some_iff.1 h
    obtain ⟨ds, hl, h⟩ := Option.bind_eq_some_iff.1 h
    cases h
    rw [List.map_cons, ← ih hl, ← hc]
    rfl

/-- **Bytes are read as a text exactly if they are the bytes of it.** -/
theorem decode?_eq_some_iff : decode? bs = some cs ↔ bs = encode cs := by
  constructor
  · intro h
    have hscan : scan bs = cs.map some := mapM_id_eq_some h
    have hnone : none ∉ scan bs := by simp [hscan]
    obtain ⟨cs', rfl⟩ := exists_encode hnone
    rw [decode?_encode] at h
    rw [Option.some.inj h]
  · rintro rfl
    exact decode?_encode cs

/-- A line end is read as itself, whatever stands in front of it. -/
theorem decode?_append_lineFeed (hbs : 0x0A ∉ bs) :
    decode? (bs ++ [0x0A]) = (decode? bs).map (· ++ ['\n']) := by
  rw [decode?, decode?, scan_append_lineFeed hbs, List.mapM_append]
  cases (scan bs).mapM id <;> rfl

end LintServer.Text.Utf8
