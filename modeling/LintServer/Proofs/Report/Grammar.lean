import LintServer.Proofs.Text.Digit
import LintServer.Report

/-!
# The form of a report

The grammar of the form, told apart from how it is looked for. A digit of any script may stand in a
position, but only ASCII digits denote a number, and only one of 32 bits fits. The first place where
the form stands decides, whatever stands behind it.

* `Match.chars`, `Match.WellFormed`, `Stands`, `First`: the grammar, and the first place;
* `Match.Says`, `Match.Fits`: the finding that the parts describe;
* `matchAt?_eq_some_iff`, `find?_eq_some_iff`: the reader finds the first place;
* **`findings_eq_singleton_iff`**: what is reported.
-/

namespace LintServer.Report

variable {p : Char → Bool} {w s a pre pre' post post' : List Char} {m m' : Match} {r : Finding}

/-! ## The grammar -/

/-- Some characters that have a property, at least one. -/
def Row (p : Char → Bool) (s : List Char) : Prop := s ≠ [] ∧ ∀ c ∈ s, p c = true

namespace Match

/-- The form with these parts. -/
def chars (m : Match) : List Char :=
  "line ".toList ++ (m.line ++ (", col ".toList ++ (m.column ++ (", found: '".toList ++ (m.found ++
    ("' - expected: '".toList ++ (m.expected ++ ['\''])))))))

/-- The positions are digits of any script, and the tokens hold no quote. -/
structure WellFormed (m : Match) : Prop where
  line : Row Text.isDigit m.line
  column : Row Text.isDigit m.column
  found : Row (· ≠ '\'') m.found
  expected : Row (· ≠ '\'') m.expected

end Match

/-- The form stands in a text, with something before and behind it. -/
structure Stands (s pre : List Char) (m : Match) (post : List Char) : Prop where
  text_eq : s = pre ++ (m.chars ++ post)
  wellFormed : m.WellFormed

/-- The form stands in a text, and nowhere with less before it. -/
structure First (s pre : List Char) (m : Match) (post : List Char) : Prop extends
    Stands s pre m post where
  length_le : ∀ pre' m' post', Stands s pre' m' post' → pre.length ≤ pre'.length

/-- A row of digits denotes a number of 32 bits. -/
def Denotes (ds : List Char) (n : UInt32) : Prop :=
  (∀ c ∈ ds, Text.isAsciiDigit c = true) ∧ Text.digitsValue ds = n.toNat

namespace Match

/-- The parts describe a finding. -/
structure Says (m : Match) (r : Finding) : Prop where
  line : Denotes m.line r.line
  column : Denotes m.column r.column
  found : r.found.toList = m.found
  expected : r.expected.toList = m.expected

/-- The positions are numbers of 32 bits. -/
def Fits (m : Match) : Prop :=
  (∀ c ∈ m.line ++ m.column, Text.isAsciiDigit c = true) ∧
    Text.digitsValue m.line ≤ 4294967295 ∧ Text.digitsValue m.column ≤ 4294967295

end Match

/-! ## The form at the start of a text -/

theorem after?_append (w s : List Char) : after? w (w ++ s) = some s := by
  induction w with
  | nil => rfl
  | cons c w ih => exact (if_pos rfl).trans ih

theorem eq_of_after? (h : after? w s = some a) : s = w ++ a := by
  induction w generalizing s with
  | nil => exact Option.some.inj h
  | cons c w ih =>
    cases s with
    | nil => cases h
    | cons d s =>
      simp only [after?] at h
      split_ifs at h with hd
      rw [hd, ih h, List.cons_append]

theorem some1?_append (ha : Row p a) (hw : ∃ c w', w = c :: w' ∧ p c = false) (s : List Char) :
    some1? p (a ++ (w ++ s)) = some (a, w ++ s) := by
  obtain ⟨c, w', rfl, hc⟩ := hw
  have hhead : ∀ d ∈ (c :: w' ++ s).head?, p d = false := fun d hd => by
    rw [← Option.some.inj hd, hc]
  rw [some1?, Text.span_append ha.2 hhead]
  exact if_neg (by simpa using ha.1)

theorem eq_of_some1? (h : some1? p s = some (a, post)) : s = a ++ post ∧ Row p a := by
  simp only [some1?, List.span_eq_takeWhile_dropWhile, List.isEmpty_iff] at h
  split_ifs at h with hne
  cases h
  exact ⟨List.takeWhile_append_dropWhile.symm, hne, fun c hc => List.mem_takeWhile_imp hc⟩

/-- What stands behind a number is no digit, and what stands behind a token is a quote. -/
theorem matchAt?_append (h : m.WellFormed) (post : List Char) :
    matchAt? (m.chars ++ post) = some m := by
  have hcol : ∃ c w, ", col ".toList = c :: w ∧ Text.isDigit c = false := ⟨',', _, rfl, by decide⟩
  have hfound : ∃ c w, ", found: '".toList = c :: w ∧ Text.isDigit c = false :=
    ⟨',', _, rfl, by decide⟩
  have hexpected : ∃ c w, "' - expected: '".toList = c :: w ∧ decide (c ≠ '\'') = false :=
    ⟨'\'', _, rfl, rfl⟩
  have hquote : ∃ c w, ['\''] = c :: w ∧ decide (c ≠ '\'') = false := ⟨'\'', _, rfl, rfl⟩
  unfold Match.chars
  simp only [List.append_assoc]
  unfold matchAt?
  refine Option.bind_eq_some_iff.2 ⟨_, after?_append _ _, ?_⟩
  refine Option.bind_eq_some_iff.2 ⟨_, some1?_append h.line hcol _, ?_⟩
  refine Option.bind_eq_some_iff.2 ⟨_, after?_append _ _, ?_⟩
  refine Option.bind_eq_some_iff.2 ⟨_, some1?_append h.column hfound _, ?_⟩
  refine Option.bind_eq_some_iff.2 ⟨_, after?_append _ _, ?_⟩
  refine Option.bind_eq_some_iff.2 ⟨_, some1?_append h.found hexpected _, ?_⟩
  refine Option.bind_eq_some_iff.2 ⟨_, after?_append _ _, ?_⟩
  refine Option.bind_eq_some_iff.2 ⟨_, some1?_append h.expected hquote _, ?_⟩
  exact Option.bind_eq_some_iff.2 ⟨_, after?_append _ _, rfl⟩

/-- **The form is read exactly where it stands.** -/
theorem matchAt?_eq_some_iff : matchAt? s = some m ↔ m.WellFormed ∧ m.chars <+: s := by
  constructor
  · intro h
    simp only [matchAt?, Option.bind_eq_bind, Option.bind_eq_some_iff, Option.pure_def,
      Option.some.injEq, Prod.exists] at h
    obtain ⟨s₁, h₁, line, s₂, h₂, s₃, h₃, column, s₄, h₄, s₅, h₅, found, s₆, h₆, s₇, h₇, expected,
      s₈, h₈, s₉, h₉, rfl⟩ := h
    obtain ⟨rfl, hline⟩ := eq_of_some1? h₂
    obtain ⟨rfl, hcolumn⟩ := eq_of_some1? h₄
    obtain ⟨rfl, hfound⟩ := eq_of_some1? h₆
    obtain ⟨rfl, hexpected⟩ := eq_of_some1? h₈
    refine ⟨⟨hline, hcolumn, hfound, hexpected⟩, s₉, ?_⟩
    rw [eq_of_after? h₁, eq_of_after? h₃, eq_of_after? h₅, eq_of_after? h₇, eq_of_after? h₉]
    unfold Match.chars
    simp only [List.append_assoc]
  · rintro ⟨hm, post, rfl⟩
    exact matchAt?_append hm post

/-! ## The first place -/

/-- The parts of the form are determined by where it stands. -/
theorem Stands.eq (h : Stands s pre m post) (h' : Stands s pre m' post') : m' = m ∧ post' = post := by
  have htext : m.chars ++ post = m'.chars ++ post' :=
    List.append_cancel_left (h.text_eq.symm.trans h'.text_eq)
  have hm : m' = m := by
    have hat := matchAt?_append h.wellFormed post
    rw [htext, matchAt?_append h'.wellFormed post'] at hat
    exact Option.some.inj hat
  subst hm
  exact ⟨rfl, (List.append_cancel_left htext).symm⟩

theorem First.eq (h : First s pre m post) (h' : First s pre' m' post') :
    pre' = pre ∧ m' = m ∧ post' = post := by
  have hlength : pre'.length = pre.length :=
    Nat.le_antisymm (h'.length_le _ _ _ h.toStands) (h.length_le _ _ _ h'.toStands)
  obtain rfl : pre' = pre :=
    List.append_inj_left (h'.text_eq.symm.trans h.text_eq) hlength
  exact ⟨rfl, h.toStands.eq h'.toStands⟩

theorem find?_of_first (h : First s pre m post) : find? s = some m := by
  induction pre generalizing s with
  | nil =>
    have hat := matchAt?_append h.wellFormed post
    rw [← List.nil_append (m.chars ++ post), ← h.text_eq] at hat
    cases s with
    | nil => cases hat
    | cons c s => simp only [find?, hat]
  | cons c pre ih =>
    obtain ⟨⟨rfl, hm⟩, hle⟩ := h
    have hnone : matchAt? (c :: pre ++ (m.chars ++ post)) = none := by
      -- The form would stand with nothing before it.
      refine Option.eq_none_iff_forall_ne_some.2 fun m' hat => ?_
      obtain ⟨hm', post', heq⟩ := matchAt?_eq_some_iff.1 hat
      exact absurd (hle [] m' post' ⟨heq.symm, hm'⟩) (Nat.not_succ_le_zero _)
    rw [List.cons_append] at hnone ⊢
    simp only [find?, hnone]
    refine ih ⟨⟨rfl, hm⟩, fun pre' m' post' h' => ?_⟩
    exact Nat.le_of_succ_le_succ (hle (c :: pre') m' post'
      ⟨congrArg (c :: ·) h'.text_eq, h'.wellFormed⟩)

theorem first_of_find? (h : find? s = some m) : ∃ pre post, First s pre m post := by
  induction s with
  | nil => cases h
  | cons c s ih =>
    simp only [find?] at h
    split at h
    · rename_i m' hat
      cases h
      obtain ⟨hm, post, heq⟩ := matchAt?_eq_some_iff.1 hat
      exact ⟨[], post, ⟨heq.symm, hm⟩, fun _ _ _ _ => Nat.zero_le _⟩
    · rename_i hnone
      obtain ⟨pre, post, ⟨heq, hm⟩, hle⟩ := ih h
      refine ⟨c :: pre, post, ⟨congrArg (c :: ·) heq, hm⟩, fun pre' m' post' h' => ?_⟩
      cases pre' with
      | nil =>
        rw [matchAt?_eq_some_iff.2 ⟨h'.wellFormed, post', h'.text_eq.symm⟩] at hnone
        cases hnone
      | cons d pre' =>
        have htail := (List.cons.inj h'.text_eq).2
        exact Nat.succ_le_succ (hle pre' m' post' ⟨htail, h'.wellFormed⟩)

theorem find?_eq_some_iff : find? s = some m ↔ ∃ pre post, First s pre m post :=
  ⟨first_of_find?, fun ⟨_, _, h⟩ => find?_of_first h⟩

/-! ## What the parts describe -/

theorem position?_eq_some_iff {ds : List Char} (hne : ds ≠ []) {n : UInt32} :
    position? ds = some n ↔ Denotes ds n := by
  have hread : ∀ k, Text.readNat? ds = some k ↔
      (∀ c ∈ ds, Text.isAsciiDigit c = true) ∧ Text.digitsValue ds = k := by
    intro k
    simp [Text.readNat?, hne]
  rw [position?, Option.map_eq_some_iff, Denotes, ← hread]
  constructor
  · rintro ⟨k, hk, rfl⟩
    obtain ⟨hk, hle⟩ := Text.readWithin?_eq_some_iff.1 hk
    rw [UInt32.toNat_ofNat_of_lt' (Nat.lt_succ_of_le hle), hk]
  · intro hn
    refine ⟨n.toNat, Text.readWithin?_eq_some_iff.2 ⟨hn, Nat.le_of_lt_succ n.toNat_lt⟩, ?_⟩
    exact UInt32.ofNat_toNat

namespace Match

theorem finding?_eq_some_iff (hm : m.WellFormed) : m.finding? = some r ↔ m.Says r := by
  simp only [finding?, Option.bind_eq_bind, Option.bind_eq_some_iff, Option.pure_def,
    Option.some.injEq, position?_eq_some_iff hm.line.1, position?_eq_some_iff hm.column.1]
  constructor
  · rintro ⟨line, hline, column, hcolumn, rfl⟩
    exact ⟨hline, hcolumn, String.toList_ofList, String.toList_ofList⟩
  · rintro ⟨hline, hcolumn, hfound, hexpected⟩
    refine ⟨r.line, hline, r.column, hcolumn, ?_⟩
    rw [← hfound, ← hexpected, String.ofList_toList, String.ofList_toList]

theorem fits_iff (m : Match) : m.Fits ↔ ∃ r, m.Says r := by
  constructor
  · rintro ⟨hdigits, hline, hcolumn⟩
    obtain ⟨hl, hc⟩ := List.forall_mem_append.1 hdigits
    refine ⟨⟨.ofNat (Text.digitsValue m.line), .ofNat (Text.digitsValue m.column),
      String.ofList m.found, String.ofList m.expected⟩, ⟨hl, ?_⟩, ⟨hc, ?_⟩,
      String.toList_ofList, String.toList_ofList⟩
    · rw [UInt32.toNat_ofNat_of_lt' (Nat.lt_succ_of_le hline)]
    · rw [UInt32.toNat_ofNat_of_lt' (Nat.lt_succ_of_le hcolumn)]
  · rintro ⟨r, ⟨hl, hline⟩, ⟨hc, hcolumn⟩, _, _⟩
    refine ⟨List.forall_mem_append.2 ⟨hl, hc⟩, ?_, ?_⟩
    · exact hline ▸ Nat.le_of_lt_succ r.line.toNat_lt
    · exact hcolumn ▸ Nat.le_of_lt_succ r.column.toNat_lt

end Match

/-! ## What is reported -/

theorem findings_of_first {o : String} (h : First o.toList pre m post) :
    findings o = m.finding?.toList := by
  rw [findings, find?_of_first h, Option.bind_some]

theorem first_of_findings {o : String} (h : findings o ≠ []) :
    ∃ pre m post r, First o.toList pre m post ∧ m.Says r ∧ findings o = [r] := by
  cases hfind : find? o.toList with
  | none =>
    rw [findings, hfind] at h
    exact absurd rfl h
  | some m =>
    obtain ⟨pre, post, hfirst⟩ := first_of_find? hfind
    rw [findings_of_first hfirst] at h ⊢
    cases hr : m.finding? with
    | none =>
      rw [hr] at h
      exact absurd rfl h
    | some r =>
      exact ⟨pre, m, post, r, hfirst, (Match.finding?_eq_some_iff hfirst.wellFormed).1 hr, rfl⟩

/-- **The first place of the form decides.** Its parts are the finding if the numbers there fit, and
nothing is reported otherwise, whatever stands behind. -/
theorem findings_eq_singleton_iff (o : String) :
    (∀ r, findings o = [r] ↔ ∃ pre m post, First o.toList pre m post ∧ m.Says r) ∧
    ((¬ ∃ r pre m post, First o.toList pre m post ∧ m.Says r) → findings o = []) ∧
    (∀ pre m post pre' m' post', First o.toList pre m post → First o.toList pre' m' post' →
      pre' = pre ∧ m' = m ∧ post' = post) ∧
    (∀ pre m post, First o.toList pre m post → ¬ m.Fits → findings o = []) := by
  have hsays : ∀ pre m post r, First o.toList pre m post → m.Says r → findings o = [r] := by
    intro pre m post r hfirst hr
    rw [findings_of_first hfirst, (Match.finding?_eq_some_iff hfirst.wellFormed).2 hr]
    rfl
  refine ⟨fun r => ⟨fun hr => ?_, fun ⟨pre, m, post, hfirst, hr⟩ => hsays pre m post r hfirst hr⟩,
    fun hnone => ?_, fun pre m post pre' m' post' => First.eq, fun pre m post hfirst hfits => ?_⟩
  · obtain ⟨pre, m, post, r', hfirst, hr', heq⟩ := first_of_findings (hr ▸ List.cons_ne_nil r [])
    cases hr.symm.trans heq
    exact ⟨pre, m, post, hfirst, hr'⟩
  · by_contra hne
    obtain ⟨pre, m, post, r, hfirst, hr, _⟩ := first_of_findings hne
    exact hnone ⟨r, pre, m, post, hfirst, hr⟩
  · by_contra hne
    obtain ⟨pre', m', post', r, hfirst', hr, _⟩ := first_of_findings hne
    obtain ⟨_, rfl, _⟩ := hfirst.eq hfirst'
    exact hfits (m'.fits_iff.2 ⟨r, hr⟩)

/-- A report begins inside the token of another one that is not completed. Where the first report
has a number that does not fit, the one that follows does not count either. -/
theorem report_within_token_found :
    let o := "line 1, col 2, found: 'line 00000000003, col 4, found: 'x' - expected: 'y'"
    let o' := "line 4294967296, col 0, found: 'x' - expected: 'y'" ++
      "line 5, col 6, found: 'a' - expected: 'b'"
    let m : Match := ⟨"00000000003".toList, "4".toList, "x".toList, "y".toList⟩
    let m' : Match := ⟨"4294967296".toList, "0".toList, "x".toList, "y".toList⟩
    let r : Finding := ⟨3, 4, "x", "y"⟩
    ((∃ pre post, First o.toList pre m post) ∧ m.Says r ∧ findings o = [r]) ∧
      (∃ pre post, First o'.toList pre m' post) ∧ ¬ m'.Fits ∧ findings o' = [] := by
  intro o o' m m' r
  have hfirst : ∃ pre post, First o.toList pre m post :=
    find?_eq_some_iff.1 (by decide +kernel)
  have hfirst' : ∃ pre post, First o'.toList pre m' post :=
    find?_eq_some_iff.1 (by decide +kernel)
  have hline : ∀ c ∈ m.line, Text.isAsciiDigit c = true := List.all_eq_true.1 (by decide)
  have hcolumn : ∀ c ∈ m.column, Text.isAsciiDigit c = true := List.all_eq_true.1 (by decide)
  have hsays : m.Says r := ⟨⟨hline, by decide⟩, ⟨hcolumn, by decide⟩, rfl, rfl⟩
  have hfits : ¬ m'.Fits := fun h => absurd h.2.1 (by decide)
  refine ⟨⟨hfirst, hsays, ?_⟩, hfirst', hfits, ?_⟩
  · obtain ⟨pre, post, h⟩ := hfirst
    exact ((findings_eq_singleton_iff o).1 r).2 ⟨pre, m, post, h, hsays⟩
  · obtain ⟨pre, post, h⟩ := hfirst'
    exact (findings_eq_singleton_iff o').2.2.2 pre m' post h hfits

end LintServer.Report
