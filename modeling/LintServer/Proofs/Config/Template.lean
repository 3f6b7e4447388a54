import LintServer.Config.Template
import LintServer.Proofs.Text.Digit

/-!
# Texts taken apart

The grammar of texts with references, told apart from how they are read: plain texts, in none of
which a reference begins, and between them references, in whose names no closing brace stands. A
reference that is never closed can only be the last one, and is plain text.

* `Reference`, `Parts`: a text taken apart;
* `Parts.text_injective`, `exists_parts`: every text can be taken apart, and in one way only;
* `Parts.filled`, `Parts.missing`: a text with the values put in, and the names that have none;
* `scan_text`: reading gives the parts;
* **`expand_parts`**: what is put in, and what is missed.
-/

namespace LintServer.Template

/-! ## Parts -/

/-- What begins a reference. -/
def opening : List Char := ['$', '\x7b']

/-- A reference that is closed, behind a plain text. -/
@[ext]
structure Reference where
  plain : List Char
  name : List Char
  plain_unopened : ¬ opening <:+: plain
  name_unclosed : '\x7d' ∉ name

/-- A text taken apart: references behind plain texts, a plain text, and what stands behind an
opening that is never closed. -/
@[ext]
structure Parts where
  references : List Reference
  plain : List Char
  unclosed : Option (List Char)
  plain_unopened : ¬ opening <:+: plain
  unclosed_unclosed : ∀ t ∈ unclosed, '\x7d' ∉ t

/-- The characters of a reference and of the plain text in front of it. -/
def Reference.text (r : Reference) : List Char := r.plain ++ (opening ++ (r.name ++ ['\x7d']))

namespace Parts

/-- What is left of a text behind its references and the last plain text. -/
def tail (p : Parts) : List Char :=
  match p.unclosed with
  | none => []
  | some t => opening ++ t

/-- The text that has been taken apart. -/
def text (p : Parts) : List Char := p.references.flatMap Reference.text ++ (p.plain ++ p.tail)

end Parts

/-- A text with the value of its reference put in; nothing for the empty name or one without a
value. -/
def Reference.filled (env : Environment) (r : Reference) : List Char :=
  r.plain ++ if r.name = [] then [] else ((env (String.ofList r.name)).getD "").toList

namespace Parts

variable (env : Environment) (p : Parts)

/-- The text with the values of its references put in. -/
def filled : List Char := p.references.flatMap (Reference.filled env) ++ (p.plain ++ p.tail)

/-- The names of the references that have no value, in order, once per reference. -/
def missing : List String :=
  ((p.references.map Reference.name).filter fun n =>
    n ≠ [] ∧ env (String.ofList n) = none).map String.ofList

end Parts

/-! ## One way only -/

/-- An opening begins with a character that it does not contain again, so two of them do not
overlap. -/
theorem eq_nil_of_opening {l a x x' : List Char} (h : ¬ opening <:+: l ++ a)
    (heq : opening ++ x = a ++ (opening ++ x')) : a = [] := by
  match a with
  | [] => rfl
  | [c] => exact absurd (List.cons.inj (List.cons.inj heq).2).1 (by decide)
  | c :: d :: a =>
    obtain ⟨rfl, htail⟩ := List.cons.inj heq
    obtain ⟨rfl, -⟩ := List.cons.inj htail
    exact absurd ⟨l, a, List.append_assoc _ _ _⟩ h

theorem eq_of_opening {l l' x x' : List Char} (h : ¬ opening <:+: l) (h' : ¬ opening <:+: l')
    (heq : l ++ (opening ++ x) = l' ++ (opening ++ x')) : l = l' ∧ x = x' := by
  have hl : l = l' := by
    rcases List.append_eq_append_iff.1 heq with ⟨a, rfl, ha⟩ | ⟨a, rfl, ha⟩
    · rw [eq_nil_of_opening h' ha, List.append_nil]
    · rw [eq_nil_of_opening h ha, List.append_nil]
  subst hl
  exact ⟨rfl, List.append_cancel_left (List.append_cancel_left heq)⟩

theorem eq_of_closing {n n' x x' : List Char} (h : '\x7d' ∉ n) (h' : '\x7d' ∉ n')
    (heq : n ++ '\x7d' :: x = n' ++ '\x7d' :: x') : n = n' ∧ x = x' := by
  have hspan := congrArg (List.span (· ≠ '\x7d')) heq
  rw [Text.span_append_cons h, Text.span_append_cons h'] at hspan
  obtain ⟨hn, hx⟩ := Prod.mk.inj hspan
  exact ⟨hn, (List.cons.inj hx).2⟩

theorem Reference.eq_of_text {r r' : Reference} {x x' : List Char}
    (h : r.text ++ x = r'.text ++ x') : r = r' ∧ x = x' := by
  simp only [Reference.text, List.append_assoc, List.singleton_append] at h
  obtain ⟨hplain, h⟩ := eq_of_opening r.plain_unopened r'.plain_unopened h
  obtain ⟨hname, hx⟩ := eq_of_closing r.name_unclosed r'.name_unclosed h
  exact ⟨Reference.ext hplain hname, hx⟩

namespace Parts

theorem not_reference (p : Parts) (r : Reference) (x : List Char) :
    p.plain ++ p.tail ≠ r.text ++ x := by
  intro h
  simp only [Reference.text, List.append_assoc, List.singleton_append] at h
  cases ht : p.unclosed with
  | none =>
    rw [tail, ht, List.append_nil] at h
    exact p.plain_unopened ⟨r.plain, _, by rw [h, List.append_assoc]⟩
  | some t =>
    rw [tail, ht] at h
    obtain ⟨-, rfl⟩ := eq_of_opening p.plain_unopened r.plain_unopened h
    exact p.unclosed_unclosed _ ht (List.mem_append_right _ List.mem_cons_self)

theorem plain_tail_ne_of_unclosed {p q : Parts} {t : List Char} (hp : p.unclosed = none)
    (hq : q.unclosed = some t) : p.plain ++ p.tail ≠ q.plain ++ q.tail := by
  intro h
  rw [tail, hp, tail, hq, List.append_nil] at h
  exact p.plain_unopened ⟨q.plain, t, by rw [h, List.append_assoc]⟩

theorem eq_of_plain_tail {p q : Parts} (h : p.plain ++ p.tail = q.plain ++ q.tail) :
    p.plain = q.plain ∧ p.unclosed = q.unclosed := by
  cases hp : p.unclosed with
  | none =>
    cases hq : q.unclosed with
    | none =>
      rw [tail, hp, tail, hq, List.append_nil, List.append_nil] at h
      exact ⟨h, rfl⟩
    | some t => exact absurd h (plain_tail_ne_of_unclosed hp hq)
  | some t =>
    cases hq : q.unclosed with
    | none => exact absurd h.symm (plain_tail_ne_of_unclosed hq hp)
    | some t' =>
      rw [tail, hp, tail, hq] at h
      obtain ⟨hplain, ht⟩ := eq_of_opening p.plain_unopened q.plain_unopened h
      exact ⟨hplain, congrArg some ht⟩

theorem eq_of_references {p q : Parts} {rs rs' : List Reference}
    (h : rs.flatMap Reference.text ++ (p.plain ++ p.tail) =
      rs'.flatMap Reference.text ++ (q.plain ++ q.tail)) :
    rs = rs' ∧ p.plain ++ p.tail = q.plain ++ q.tail := by
  induction rs generalizing rs' with
  | nil =>
    cases rs' with
    | nil => exact ⟨rfl, h⟩
    | cons r' rs' =>
      rw [List.flatMap_nil, List.nil_append, List.flatMap_cons, List.append_assoc] at h
      exact absurd h (p.not_reference r' _)
  | cons r rs ih =>
    rw [List.flatMap_cons, List.append_assoc] at h
    cases rs' with
    | nil => exact absurd h.symm (q.not_reference r _)
    | cons r' rs' =>
      rw [List.flatMap_cons, List.append_assoc] at h
      obtain ⟨rfl, hrest⟩ := Reference.eq_of_text h
      obtain ⟨rfl, hend⟩ := ih hrest
      exact ⟨rfl, hend⟩

/-- A text is taken apart in one way only. -/
theorem text_injective {p q : Parts} (h : p.text = q.text) : p = q := by
  obtain ⟨hreferences, hend⟩ := eq_of_references h
  obtain ⟨hplain, hunclosed⟩ := eq_of_plain_tail hend
  exact Parts.ext hreferences hplain hunclosed

end Parts

/-! ## Every text -/

theorem exists_opening {s : List Char} (h : opening <:+: s) :
    ∃ l x, s = l ++ (opening ++ x) ∧ ¬ opening <:+: l := by
  induction s with
  | nil => exact absurd (List.infix_nil.1 h) (by decide)
  | cons c s ih =>
    by_cases hhead : opening <+: c :: s
    · obtain ⟨x, hx⟩ := hhead
      exact ⟨[], x, hx.symm, by decide⟩
    · obtain ⟨l, x, rfl, hl⟩ := ih ((List.infix_cons_iff.1 h).resolve_left hhead)
      refine ⟨c :: l, x, rfl, fun hcl => hhead ?_⟩
      have hprefix := (List.infix_cons_iff.1 hcl).resolve_right hl
      exact hprefix.trans (List.prefix_append (c :: l) _)

/-- Every text can be taken apart. -/
theorem exists_parts (s : List Char) : ∃ p : Parts, p.text = s := by
  induction hn : s.length using Nat.strongRecOn generalizing s with
  | ind n ih =>
    by_cases hopen : opening <:+: s
    · obtain ⟨l, x, rfl, hl⟩ := exists_opening hopen
      by_cases hclose : '\x7d' ∈ x
      · obtain ⟨name, y, rfl, hname⟩ := List.eq_append_cons_of_mem hclose
        have hlt : y.length < n := by
          rw [← hn]
          simp only [List.length_append, List.length_cons]
          omega
        obtain ⟨p, rfl⟩ := ih y.length hlt y rfl
        refine ⟨{ p with references := ⟨l, name, hl, hname⟩ :: p.references }, ?_⟩
        simp [Parts.text, Parts.tail, Reference.text]
      · exact ⟨⟨[], l, some x, hl, fun t ht => Option.some.inj ht ▸ hclose⟩, rfl⟩
    · exact ⟨⟨[], s, none, hopen, fun t ht => nomatch ht⟩, List.append_nil s⟩

/-! ## Reading -/

theorem scan_plain {l rest : List Char} (h : ¬ opening <:+: l)
    (hrest : rest = [] ∨ opening <+: rest) :
    scan none (l ++ rest) = l.map .literal ++ scan none rest := by
  induction l with
  | nil => rfl
  | cons c l ih =>
    rw [List.infix_cons_iff, not_or] at h
    have hno : ∀ x, c = '$' → l ++ rest = '\x7b' :: x → False := by
      rintro x rfl hx
      cases l with
      | nil =>
        rcases hrest with rfl | ⟨y, rfl⟩
        · cases hx
        · exact absurd (List.cons.inj hx).1 (by decide)
      | cons d l =>
        obtain ⟨rfl, -⟩ := List.cons.inj hx
        exact h.1 ⟨l, rfl⟩
    rw [List.cons_append, scan.eq_3 _ _ hno, ih h.2]
    rfl

theorem scan_eq_plain {l : List Char} (h : ¬ opening <:+: l) : scan none l = l.map .literal := by
  have hscan := scan_plain h (.inl rfl)
  rwa [List.append_nil, scan, List.append_nil] at hscan

theorem scan_name {n : List Char} (h : '\x7d' ∉ n) (acc rest : List Char) :
    scan (some acc) (n ++ '\x7d' :: rest) = .variable (acc.reverse ++ n) :: scan none rest := by
  induction n generalizing acc with
  | nil => rw [List.nil_append, scan, if_pos rfl, List.append_nil]
  | cons c n ih =>
    obtain ⟨hc, hn⟩ := List.ne_and_not_mem_of_not_mem_cons h
    rw [List.cons_append, scan, if_neg (Ne.symm hc), ih hn, List.reverse_cons, List.append_assoc]
    rfl

theorem scan_unclosed {t : List Char} (h : '\x7d' ∉ t) (acc : List Char) :
    scan (some acc) t = (opening ++ (acc.reverse ++ t)).map .literal := by
  induction t generalizing acc with
  | nil => rw [scan, List.append_nil]; rfl
  | cons c t ih =>
    obtain ⟨hc, ht⟩ := List.ne_and_not_mem_of_not_mem_cons h
    rw [scan, if_neg (Ne.symm hc), ih ht, List.reverse_cons, List.append_assoc]
    rfl

/-- The pieces of a reference and of the plain text in front of it. -/
def Reference.pieces (r : Reference) : List Piece := r.plain.map .literal ++ [.variable r.name]

theorem scan_reference (r : Reference) (rest : List Char) :
    scan none (r.text ++ rest) = r.pieces ++ scan none rest := by
  have htext : r.text ++ rest = r.plain ++ (opening ++ (r.name ++ '\x7d' :: rest)) := by
    simp only [Reference.text, List.append_assoc, List.singleton_append]
  have hopen : scan none (opening ++ (r.name ++ '\x7d' :: rest)) =
      scan (some []) (r.name ++ '\x7d' :: rest) := rfl
  rw [htext, scan_plain r.plain_unopened (.inr (List.prefix_append _ _)), hopen,
    scan_name r.name_unclosed, Reference.pieces, List.append_assoc]
  rfl

theorem scan_references (rs : List Reference) (rest : List Char) :
    scan none (rs.flatMap Reference.text ++ rest) =
      rs.flatMap Reference.pieces ++ scan none rest := by
  induction rs with
  | nil => rfl
  | cons r rs ih =>
    rw [List.flatMap_cons, List.append_assoc, scan_reference, ih, List.flatMap_cons,
      List.append_assoc]

namespace Parts

theorem scan_plain_tail (p : Parts) :
    scan none (p.plain ++ p.tail) = (p.plain ++ p.tail).map .literal := by
  cases ht : p.unclosed with
  | none => rw [tail, ht, List.append_nil, scan_eq_plain p.plain_unopened]
  | some t =>
    have hopen : scan none (opening ++ t) = scan (some []) t := rfl
    rw [tail, ht, scan_plain p.plain_unopened (.inr (List.prefix_append _ _)), hopen,
      scan_unclosed (p.unclosed_unclosed t ht)]
    simp only [List.map_append, List.reverse_nil, List.nil_append]

/-- **Reading gives the parts.** -/
theorem scan_text (p : Parts) : scan none p.text =
    p.references.flatMap Reference.pieces ++ (p.plain ++ p.tail).map .literal := by
  rw [text, scan_references, p.scan_plain_tail]

end Parts

/-! ## What is put in -/

variable (env : Environment)

theorem flatMap_literal (l : List Char) : (l.map .literal).flatMap (expandPiece env) = l := by
  rw [List.flatMap_map]
  exact List.flatMap_singleton' l

theorem filterMap_literal (l : List Char) : (l.map .literal).filterMap (unsetName? env) = [] := by
  rw [List.filterMap_map]
  exact List.filterMap_eq_nil_iff.2 fun _ _ => rfl

theorem flatMap_reference (r : Reference) : r.pieces.flatMap (expandPiece env) = r.filled env := by
  rw [Reference.pieces, List.flatMap_append, flatMap_literal, List.flatMap_singleton, expandPiece,
    value, Reference.filled]
  simp only [List.isEmpty_iff]

theorem filterMap_reference (r : Reference) : r.pieces.filterMap (unsetName? env) =
    if r.name ≠ [] ∧ env (String.ofList r.name) = none then [String.ofList r.name] else [] := by
  rw [Reference.pieces, List.filterMap_append, filterMap_literal, List.nil_append]
  by_cases h : r.name ≠ [] ∧ env (String.ofList r.name) = none <;> simp_all [unsetName?]

theorem filterMap_references (rs : List Reference) :
    (rs.flatMap Reference.pieces).filterMap (unsetName? env) =
      ((rs.map Reference.name).filter fun n =>
        n ≠ [] ∧ env (String.ofList n) = none).map String.ofList := by
  induction rs with
  | nil => rfl
  | cons r rs ih =>
    rw [List.flatMap_cons, List.filterMap_append, filterMap_reference, ih, List.map_cons,
      List.filter_cons]
    simp only [decide_eq_true_iff]
    split_ifs <;> rfl

theorem toList_expand (p : Parts) : (expand env (String.ofList p.text)).toList = p.filled env := by
  rw [expand, pieces, String.toList_ofList, String.toList_ofList, p.scan_text, List.flatMap_append,
    flatMap_literal, List.flatMap_assoc, Parts.filled]
  simp only [flatMap_reference]

theorem unset_eq_missing (p : Parts) : unset env (String.ofList p.text) = p.missing env := by
  rw [unset, pieces, String.toList_ofList, p.scan_text, List.filterMap_append, filterMap_literal,
    List.append_nil, filterMap_references, Parts.missing]

/-- **What is put in, and what is missed**, is told from the parts of the text, of which there are
exactly one. What has been put in is not looked at again. -/
theorem expand_parts :
    (∀ s : String, ∃! p : Parts, p.text = s.toList) ∧
    ∀ (p : Parts) (env : Environment),
      (expand env (String.ofList p.text)).toList = p.filled env ∧
      unset env (String.ofList p.text) = p.missing env := by
  refine ⟨fun s => ?_, fun p env => ⟨toList_expand env p, unset_eq_missing env p⟩⟩
  obtain ⟨p, hp⟩ := exists_parts s.toList
  exact ⟨p, hp, fun q hq => Parts.text_injective (hq.trans hp.symm)⟩

/-- A value that looks like a reference stays, and a name may hold an opening. -/
example : expand (.ofSettings ["A=$\x7bA\x7d"])
    "$$\x7bA\x7d$\x7b$\x7bA\x7d\x7d$\x7b" = "$$\x7bA\x7d\x7d$\x7b" := by decide +kernel

end LintServer.Template
