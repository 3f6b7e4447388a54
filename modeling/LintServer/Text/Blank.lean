/-!
# Blank characters

The characters with the Unicode property White_Space, and trimming by it.

* `isBlank`, `trimStart`, `trimEnd`, `trim` on lists of characters;
* `trimmedEnd`, `allBlank`: the same on strings;
* `trim_eq_nil_iff`: trimming leaves nothing exactly when every character is blank;
* `trim_append_cons`: a character that is not blank keeps the two sides apart.
-/

namespace LintServer.Text

/-- The characters with the property White_Space. -/
def isBlank (c : Char) : Bool :=
  let n := c.toNat
  (0x9 ≤ n && n ≤ 0xD) || n == 0x20 || n == 0x85 || n == 0xA0 || n == 0x1680 ||
    (0x2000 ≤ n && n ≤ 0x200A) || n == 0x2028 || n == 0x2029 || n == 0x202F || n == 0x205F ||
    n == 0x3000

/-- Drops the blank characters at the start. -/
def trimStart (s : List Char) : List Char := s.dropWhile isBlank

/-- Drops the blank characters at the end. -/
def trimEnd (s : List Char) : List Char := (s.reverse.dropWhile isBlank).reverse

/-- Drops the blank characters at both ends. -/
def trim (s : List Char) : List Char := trimEnd (trimStart s)

/-- The text without blank characters at its end. -/
def trimmedEnd (s : String) : String := String.ofList (trimEnd s.toList)

/-- Whether a text consists of blank characters only; the empty text does. -/
def allBlank (s : String) : Bool := s.toList.all isBlank

theorem dropWhile_eq_nil_iff (p : Char → Bool) (s : List Char) :
    s.dropWhile p = [] ↔ ∀ c ∈ s, p c = true := by
  induction s with
  | nil => simp
  | cons c s ih => cases h : p c <;> simp [h, ih]

theorem trimEnd_eq_nil_iff (s : List Char) : trimEnd s = [] ↔ ∀ c ∈ s, isBlank c = true := by
  rw [trimEnd, List.reverse_eq_nil_iff, dropWhile_eq_nil_iff]
  simp

/-- Trimming leaves nothing exactly when every character is blank. -/
theorem trim_eq_nil_iff (s : List Char) : trim s = [] ↔ ∀ c ∈ s, isBlank c = true := by
  unfold trim
  rw [trimEnd_eq_nil_iff]
  induction s with
  | nil => simp [trimStart]
  | cons c s ih =>
    cases h : isBlank c
    · simp [trimStart, h]
    · simpa [trimStart, h] using ih

theorem trimEnd_append_of_blank (s t : List Char) (h : ∀ c ∈ t, isBlank c = true) :
    trimEnd (s ++ t) = trimEnd s := by
  have hd : t.reverse.dropWhile isBlank = [] := by
    rw [dropWhile_eq_nil_iff]
    simpa using h
  simp [trimEnd, List.dropWhile_append, hd]

theorem dropWhile_append_cons {p : Char → Bool} {c : Char} (hc : p c = false) (s t : List Char) :
    (s ++ c :: t).dropWhile p = s.dropWhile p ++ c :: t := by
  induction s with
  | nil => simp [hc]
  | cons d s ih => cases hd : p d <;> simp [hd, ih]

theorem trimEnd_append_cons {c : Char} (hc : isBlank c = false) (s t : List Char) :
    trimEnd (s ++ c :: t) = s ++ c :: trimEnd t := by
  rw [trimEnd, List.reverse_append, List.reverse_cons, List.append_assoc, List.singleton_append,
    dropWhile_append_cons hc]
  simp [trimEnd]

/-- A character that is not blank keeps the two sides apart. -/
theorem trim_append_cons {c : Char} (hc : isBlank c = false) (s t : List Char) :
    trim (s ++ c :: t) = trimStart s ++ c :: trimEnd t := by
  rw [trim, trimStart, dropWhile_append_cons hc, trimEnd_append_cons hc]
  rfl

theorem trim_eq_self {s : List Char} (h : ∀ c ∈ s, isBlank c = false) : trim s = s := by
  have hdrop : ∀ t : List Char, (∀ c ∈ t, isBlank c = false) → t.dropWhile isBlank = t := by
    intro t ht
    cases t with
    | nil => rfl
    | cons c t => rw [List.dropWhile_cons, ht c List.mem_cons_self]; rfl
  rw [trim, trimStart, hdrop s h, trimEnd, hdrop s.reverse fun c hc => h c (List.mem_reverse.1 hc),
    List.reverse_reverse]

theorem trimStart_trimStart (s : List Char) : trimStart (trimStart s) = trimStart s := by
  induction s with
  | nil => rfl
  | cons c s ih => cases h : isBlank c <;> simp_all [trimStart]

theorem trim_trimStart (s : List Char) : trim (trimStart s) = trim s := by
  rw [trim, trimStart_trimStart, trim]

theorem trim_append_of_blank (s t : List Char) (h : ∀ c ∈ t, isBlank c = true) :
    trim (s ++ t) = trim s := by
  have hd : t.dropWhile isBlank = [] := (dropWhile_eq_nil_iff isBlank t).2 h
  rw [trim, trim, trimStart, trimStart, List.dropWhile_append]
  split
  · rename_i he
    rw [hd, List.isEmpty_iff.1 he]
  · exact trimEnd_append_of_blank _ _ h

theorem trim_trimEnd (s : List Char) : trim (trimEnd s) = trim s := by
  have hs : s = trimEnd s ++ (s.reverse.takeWhile isBlank).reverse := by
    rw [trimEnd, ← List.reverse_append, List.takeWhile_append_dropWhile, List.reverse_reverse]
  have hb : ∀ c ∈ (s.reverse.takeWhile isBlank).reverse, isBlank c = true := fun c hc =>
    List.all_eq_true.1 List.all_takeWhile c (List.mem_reverse.1 hc)
  rw [← trim_append_of_blank _ _ hb, ← hs]

end LintServer.Text
