import LintServer.Proofs.Frame.Header
import LintServer.Proofs.Frame.Stream
import LintServer.Proofs.Text.Strict
import Mathlib.Data.List.Induction

/-!
# The first offence

What a stream is answered with, told from its lines and not from how they are read. The first line
that is no text, is blank, or gives a length that is no number decides: the two mistakes are the
answer, and behind the blank line the length that was given last decides about the body.

* `linesOf`: the lines of a stream;
* `Judged`, `judge_of_judged`, `exists_judged`: what a line is, by the grammar alone;
* `Given`, `AnswersBody`, `Answers`, `Items`: the answer to a stream, frame by frame;
* `read_of_passed`: reading stands behind the lines that do not decide;
* **`first_offence_decides`**: every stream is answered so.
-/

namespace LintServer.Frame

open Text (trim)

/-! ## Lines -/

/-- The lines of a stream. Each ends with its newline; the last one may lack it. -/
def linesOf : List UInt8 → List (List UInt8)
  | [] => []
  | b :: s =>
    if b = 0x0A then [b] :: linesOf s
    else match linesOf s with
      | [] => [[b]]
      | line :: behind => (b :: line) :: behind

theorem flatten_linesOf (s : List UInt8) : (linesOf s).flatten = s := by
  induction s with
  | nil => rfl
  | cons b s ih =>
    rw [linesOf]
    split_ifs
    · rw [List.flatten_cons, ih, List.singleton_append]
    · split <;> rename_i h <;> rw [h] at ih <;> rw [← ih] <;> rfl

theorem linesOf_unended {line : List UInt8} (hne : line ≠ []) (hline : 0x0A ∉ line) :
    linesOf line = [line] := by
  induction line with
  | nil => exact absurd rfl hne
  | cons b line ih =>
    obtain ⟨hb, hline⟩ := List.ne_and_not_mem_of_not_mem_cons hline
    rw [linesOf, if_neg (Ne.symm hb)]
    cases line with
    | nil => rfl
    | cons c line => rw [ih (List.cons_ne_nil c line) hline]

theorem linesOf_append {line : List UInt8} (hline : 0x0A ∉ line) (rest : List UInt8) :
    linesOf (line ++ 0x0A :: rest) = (line ++ [0x0A]) :: linesOf rest := by
  induction line with
  | nil => rfl
  | cons b line ih =>
    obtain ⟨hb, hline⟩ := List.ne_and_not_mem_of_not_mem_cons hline
    rw [List.cons_append, linesOf, if_neg (Ne.symm hb), ih hline]
    rfl

theorem exists_of_linesOf {s line : List UInt8} {behind : List (List UInt8)}
    (h : linesOf s = line :: behind) :
    (∃ l rest, 0x0A ∉ l ∧ s = l ++ 0x0A :: rest ∧ line = l ++ [0x0A] ∧ behind = linesOf rest) ∨
      s = line ∧ line ≠ [] ∧ 0x0A ∉ line ∧ behind = [] := by
  by_cases hs : 0x0A ∈ s
  · obtain ⟨l, rest, rfl, hl⟩ := List.eq_append_cons_of_mem hs
    rw [linesOf_append hl] at h
    obtain ⟨rfl, rfl⟩ := List.cons.inj h
    exact .inl ⟨l, rest, hl, rfl, rfl, rfl⟩
  · have hne : s ≠ [] := by
      rintro rfl
      cases h
    rw [linesOf_unended hne hs] at h
    obtain ⟨rfl, rfl⟩ := List.cons.inj h
    exact .inr ⟨rfl, hne, hs, rfl⟩

theorem linesOf_flatten {s line : List UInt8} {behind : List (List UInt8)}
    (h : linesOf s = line :: behind) : linesOf behind.flatten = behind := by
  rcases exists_of_linesOf h with ⟨_, rest, _, _, _, rfl⟩ | ⟨_, _, _, rfl⟩
  · rw [flatten_linesOf]
  · rfl

/-! ## What a line is -/

/-- What a line is: no text, a length that is no number, or what the grammar says. -/
inductive Judged (line : List UInt8) : Except FrameError HeaderLine → Prop
  | notText (h : ∀ text, line ≠ Text.Utf8.encode text) : Judged line (.error (.io .notText))
  | invalid {name value : List Char} (hline : line = Text.Utf8.encode (name ++ ':' :: value))
      (hcolon : ':' ∉ name) (hname : IsName (trim name)) (hvalue : ∀ n, ¬ Denotes (trim value) n) :
      Judged line (.error (.invalidLength (String.ofList (trim value))))
  | meant {text : List Char} {meaning : HeaderLine} (hline : line = Text.Utf8.encode text)
      (h : Says text meaning) : Judged line (.ok meaning)

theorem lengthOf?_eq_some_iff {value : List Char} {n : Nat} :
    lengthOf? value = some n ↔ Denotes value n := by
  refine ⟨fun h => ?_, lengthOf?_of_denotes⟩
  unfold lengthOf? at h
  split at h
  · exact ⟨_, .inr rfl, Text.readWithin?_eq_some_iff.1 h⟩
  · exact ⟨_, .inl rfl, Text.readWithin?_eq_some_iff.1 h⟩

theorem exists_judged_encode (text : List Char) : ∃ r, Judged (Text.Utf8.encode text) r := by
  by_cases hblank : ∀ c ∈ text, Text.isBlank c = true
  · exact ⟨_, .meant rfl (.blank hblank)⟩
  simp only [not_forall, Bool.not_eq_true, exists_prop] at hblank
  by_cases hlength : ∃ name value, text = name ++ ':' :: value ∧ ':' ∉ name ∧ IsName (trim name)
  · obtain ⟨name, value, rfl, hcolon, hname⟩ := hlength
    by_cases hvalue : ∃ n, Denotes (trim value) n
    · obtain ⟨n, hn⟩ := hvalue
      exact ⟨_, .meant rfl (.length rfl hcolon hname hn)⟩
    · exact ⟨_, .invalid rfl hcolon hname (not_exists.1 hvalue)⟩
  · exact ⟨_, .meant rfl (.other hblank fun name value htext hcolon hname =>
      hlength ⟨name, value, htext, hcolon, hname⟩)⟩

theorem judge_of_judged {line : List UInt8} {r : Except FrameError HeaderLine}
    (h : Judged line r) : judge line = r := by
  cases h with
  | notText h =>
    have hnone : Text.Utf8.decode? line = none :=
      Option.eq_none_iff_forall_ne_some.2 fun text htext =>
        h text (Text.Utf8.decode?_eq_some_iff.1 htext)
    rw [judge, hnone]
  | @invalid name value hline hcolon hname hvalue =>
    have hnone : lengthOf? (trim value) = none :=
      Option.eq_none_iff_forall_ne_some.2 fun n hn => hvalue n (lengthOf?_eq_some_iff.1 hn)
    rw [hline, judge_encode, judgeText_of_colon hcolon, if_pos ((isLengthName_iff _).2 hname), hnone]
  | meant hline h => rw [hline, judge_encode, judgeText_of_says h]

theorem exists_judged (line : List UInt8) : ∃ r, Judged line r := by
  by_cases h : ∃ text, line = Text.Utf8.encode text
  · obtain ⟨text, rfl⟩ := h
    exact exists_judged_encode text
  · exact ⟨_, .notText (not_exists.1 h)⟩

theorem judge_append_newline {line : List UInt8} (h : 0x0A ∉ line) :
    judge (line ++ [0x0A]) = judge line := by
  rw [judge, judge, Text.Utf8.decode?_append_lineFeed h]
  cases Text.Utf8.decode? line with
  | none => rfl
  | some text =>
    have htrim : trim (text ++ ['\n']) = trim text :=
      Text.trim_append_of_blank _ _ (List.forall_mem_singleton.2 rfl)
    simp only [Option.map_some, judgeText, htrim]

/-! ## Reading -/

theorem readHeader_unended (ended : Bool) {line : List UInt8} (hline : 0x0A ∉ line) (h : Header) :
    readHeader ended h line = readHeader ended { h with line := line.reverse ++ h.line } [] := by
  induction line generalizing h with
  | nil => rfl
  | cons b line ih =>
    obtain ⟨hb, hline⟩ := List.ne_and_not_mem_of_not_mem_cons hline
    have hstep : readHeader ended h (b :: line) =
        readHeader ended { h with line := b :: h.line } line := by
      rw [readHeader.eq_def]
      exact if_neg (Ne.symm hb)
    rw [hstep, ih hline, List.reverse_cons, List.append_assoc]
    rfl

theorem readHeader_last {line : List UInt8} (hne : line ≠ []) (hline : 0x0A ∉ line)
    (length : Option Nat) (started : Bool) :
    readHeader true ⟨[], length, started⟩ line =
      match judge line with
      | .error e => .failed e
      | .ok .blank => readBody true length []
      | .ok _ => .failed .truncatedHeader := by
  rw [readHeader_unended true hline, List.append_nil, readHeader, List.reverse_reverse]
  cases judge line with
  | error e => simp [hne]
  | ok meaning => cases meaning <;> simp [hne]

theorem readHeader_first {s line : List UInt8} {behind : List (List UInt8)}
    (h : linesOf s = line :: behind) (length : Option Nat) (started : Bool) :
    readHeader true ⟨[], length, started⟩ s =
      match judge line with
      | .error e => .failed e
      | .ok .blank => readBody true length behind.flatten
      | .ok (.length n) => readHeader true ⟨[], some n, true⟩ behind.flatten
      | .ok .other => readHeader true ⟨[], length, true⟩ behind.flatten := by
  rcases exists_of_linesOf h with ⟨l, rest, hl, rfl, rfl, rfl⟩ | ⟨rfl, hne, hline, rfl⟩
  · rw [readHeader_line true _ hl, judge_append_newline hl, flatten_linesOf]
    rfl
  · rw [readHeader_last hne hline]
    cases judge s with
    | error e => rfl
    | ok meaning => cases meaning <;> rfl

/-! ## The answer -/

/-- A line that does not decide: it gives a length or says nothing. -/
def Passes (line : List UInt8) : Prop := ∃ meaning, meaning ≠ .blank ∧ Judged line (.ok meaning)

/-- The length that lines give: the last one counts. -/
inductive Given (lines : List (List UInt8)) : Option Nat → Prop
  | never (h : ∀ line ∈ lines, ∀ n, ¬ Judged line (.ok (.length n))) : Given lines none
  | last {before behind : List (List UInt8)} {line : List UInt8} {n : Nat}
      (hlines : lines = before ++ line :: behind) (hline : Judged line (.ok (.length n)))
      (hbehind : ∀ line ∈ behind, ∀ n, ¬ Judged line (.ok (.length n))) : Given lines (some n)

/-- The answer behind a header, from the length and from what stands there. A length that is too
great is answered whatever stands there. -/
inductive AnswersBody : Option Nat → List UInt8 → Reading → Prop
  | missing {s : List UInt8} : AnswersBody none s (.failed .missingLength)
  | oversized {n : Nat} {s : List UInt8} (h : maxLength < n) :
      AnswersBody (some n) s (.failed (.oversized n))
  | short {n : Nat} {s : List UInt8} (h : n ≤ maxLength) (hs : s.length < n) :
      AnswersBody (some n) s (.failed (.io .endedEarly))
  | body {bytes rest : List UInt8} (h : bytes.length ≤ maxLength) :
      AnswersBody (some bytes.length) (bytes ++ rest) (.body bytes rest)

/-- The answer to a stream as far as its first frame goes, from its lines: the first one that does
not pass decides. -/
inductive Answers (lines : List (List UInt8)) : Reading → Prop
  | closed (h : lines = []) : Answers lines .closed
  | truncated (hne : lines ≠ []) (hlines : ∀ line ∈ lines, Passes line) :
      Answers lines (.failed .truncatedHeader)
  | offence {passed behind : List (List UInt8)} {line : List UInt8} {e : FrameError}
      (hlines : lines = passed ++ line :: behind) (hpassed : ∀ line ∈ passed, Passes line)
      (hline : Judged line (.error e)) : Answers lines (.failed e)
  | ended {passed behind : List (List UInt8)} {line : List UInt8} {length : Option Nat} {r : Reading}
      (hlines : lines = passed ++ line :: behind) (hpassed : ∀ line ∈ passed, Passes line)
      (hline : Judged line (.ok .blank)) (hlength : Given passed length)
      (hbody : AnswersBody length behind.flatten r) : Answers lines r

/-- The answers to a whole stream. A body that is no JSON text does not end it, and the frame behind
a body is answered as if the stream began there. -/
inductive Items : List UInt8 → List Item → Prop
  | closed {s : List UInt8} (h : Answers (linesOf s) .closed) : Items s [.closed]
  | failed {s : List UInt8} {e : FrameError} (h : Answers (linesOf s) (.failed e)) :
      Items s [.failed e]
  | value {s body rest : List UInt8} {v : Json} {items : List Item}
      (h : Answers (linesOf s) (.body body rest)) (hv : Json.ofBytes? body = some v)
      (hrest : Items rest items) : Items s (.value v :: items)
  | malformed {s body rest : List UInt8} {items : List Item}
      (h : Answers (linesOf s) (.body body rest)) (hv : Json.ofBytes? body = none)
      (hrest : Items rest items) : Items s (.malformed :: items)

/-! ## The length -/

theorem Given.eq_none {length : Option Nat} (h : Given [] length) : length = none := by
  cases h with
  | never => rfl
  | last hlines => exact absurd hlines (by simp)

theorem given_concat_length {lines : List (List UInt8)} {line : List UInt8} {n : Nat}
    (h : Judged line (.ok (.length n))) : Given (lines ++ [line]) (some n) :=
  .last rfl h nofun

theorem given_concat_other {lines : List (List UInt8)} {line : List UInt8} {length : Option Nat}
    (h : ∀ n, ¬ Judged line (.ok (.length n))) (hlines : Given lines length) :
    Given (lines ++ [line]) length := by
  cases hlines with
  | never hnone =>
    exact .never (List.forall_mem_append.2 ⟨hnone, List.forall_mem_singleton.2 h⟩)
  | @last before behind l _ hlines hline hbehind =>
    have hlines' : lines ++ [line] = before ++ l :: (behind ++ [line]) := by
      rw [hlines, List.append_assoc, List.cons_append]
    exact .last hlines' hline (List.forall_mem_append.2 ⟨hbehind, List.forall_mem_singleton.2 h⟩)

theorem Given.of_concat {lines : List (List UInt8)} {line : List UInt8} {length : Option Nat}
    (h : Given (lines ++ [line]) length) :
    (∃ n, length = some n ∧ Judged line (.ok (.length n))) ∨
      (∀ n, ¬ Judged line (.ok (.length n))) ∧ Given lines length := by
  cases h with
  | never hnone =>
    obtain ⟨hnone, hline⟩ := List.forall_mem_append.1 hnone
    exact .inr ⟨List.forall_mem_singleton.1 hline, .never hnone⟩
  | @last before behind l n hlines hline hbehind =>
    rcases List.eq_nil_or_concat behind with rfl | ⟨behind, l', rfl⟩
    · obtain ⟨-, hl⟩ := List.append_inj' hlines rfl
      exact .inl ⟨n, rfl, List.singleton_inj.1 hl ▸ hline⟩
    · rw [List.concat_eq_append] at hlines hbehind
      obtain ⟨hinit, hlast⟩ := List.forall_mem_append.1 hbehind
      obtain ⟨rfl, hl⟩ := List.append_inj' (hlines.trans (List.append_assoc _ (l :: behind) _).symm) rfl
      obtain rfl := List.singleton_inj.1 hl
      exact .inr ⟨List.forall_mem_singleton.1 hlast, .last rfl hline hinit⟩

theorem exists_given (lines : List (List UInt8)) : ∃ length, Given lines length := by
  induction lines using List.reverseRecOn with
  | nil => exact ⟨none, .never nofun⟩
  | append_singleton lines line ih =>
    obtain ⟨length, hlength⟩ := ih
    by_cases h : ∃ n, Judged line (.ok (.length n))
    · obtain ⟨n, hn⟩ := h
      exact ⟨some n, given_concat_length hn⟩
    · exact ⟨length, given_concat_other (not_exists.1 h) hlength⟩

/-! ## What decides -/

theorem readBody_of_answersBody {length : Option Nat} {s : List UInt8} {r : Reading}
    (h : AnswersBody length s r) : readBody true length s = r := by
  cases h with
  | missing => rfl
  | oversized h => exact if_pos h
  | @short n s h hs =>
    have htake : ¬ (s.take n).length = n := by
      rw [List.length_take]
      omega
    simp only [readBody, if_neg (Nat.not_lt.2 h), if_neg htake, if_true]
  | body h =>
    simp only [readBody, if_neg (Nat.not_lt.2 h), List.take_left', List.drop_left', if_true]

theorem exists_answersBody (length : Option Nat) (s : List UInt8) :
    ∃ r, AnswersBody length s r := by
  cases length with
  | none => exact ⟨_, .missing⟩
  | some n =>
    rcases Nat.lt_or_ge maxLength n with h | h
    · exact ⟨_, .oversized h⟩
    rcases Nat.lt_or_ge s.length n with hs | hs
    · exact ⟨_, .short h hs⟩
    · have hlength := List.length_take_of_le hs
      have hbody : AnswersBody (some (s.take n).length) (s.take n ++ s.drop n) _ :=
        .body (hlength.symm ▸ h)
      rw [hlength, List.take_append_drop] at hbody
      exact ⟨_, hbody⟩

/-- Lines that do not decide are passed over, and the length that was given last is kept. -/
theorem read_of_passed {s : List UInt8} {passed behind : List (List UInt8)}
    (hs : linesOf s = passed ++ behind) (hpassed : ∀ line ∈ passed, Passes line)
    {length : Option Nat} (hlength : Given passed length) :
    read true s = readHeader true ⟨[], length, !passed.isEmpty⟩ behind.flatten ∧
      linesOf behind.flatten = behind := by
  induction passed using List.reverseRecOn generalizing behind length with
  | nil =>
    obtain rfl := hlength.eq_none
    rw [List.nil_append] at hs
    rw [← hs, flatten_linesOf]
    exact ⟨rfl, rfl⟩
  | append_singleton passed line ih =>
    obtain ⟨hpassed, hline⟩ := List.forall_mem_append.1 hpassed
    obtain ⟨meaning, hne, hmeaning⟩ := List.forall_mem_singleton.1 hline
    rw [List.append_assoc, List.singleton_append] at hs
    have hstarted : (!(passed ++ [line]).isEmpty) = true := by simp
    rw [hstarted]
    rcases hlength.of_concat with ⟨n, rfl, hn⟩ | ⟨hnone, hlength⟩
    · obtain ⟨length, hlength⟩ := exists_given passed
      obtain ⟨hread, hlines⟩ := ih hs hpassed hlength
      rw [hread, readHeader_first hlines, judge_of_judged hn]
      exact ⟨rfl, linesOf_flatten hlines⟩
    · obtain ⟨hread, hlines⟩ := ih hs hpassed hlength
      obtain rfl : meaning = .other := by
        cases meaning with
        | blank => exact absurd rfl hne
        | length n => exact absurd hmeaning (hnone n)
        | other => rfl
      rw [hread, readHeader_first hlines, judge_of_judged hmeaning]
      exact ⟨rfl, linesOf_flatten hlines⟩

theorem read_of_decided {s : List UInt8} {passed behind : List (List UInt8)} {line : List UInt8}
    (hs : linesOf s = passed ++ line :: behind) (hpassed : ∀ line ∈ passed, Passes line)
    {length : Option Nat} (hlength : Given passed length) :
    read true s =
      match judge line with
      | .error e => .failed e
      | .ok .blank => readBody true length behind.flatten
      | .ok (.length n) => readHeader true ⟨[], some n, true⟩ behind.flatten
      | .ok .other => readHeader true ⟨[], length, true⟩ behind.flatten := by
  obtain ⟨hread, hlines⟩ := read_of_passed hs hpassed hlength
  rw [hread, readHeader_first hlines]

theorem read_of_answers {s : List UInt8} {r : Reading} (h : Answers (linesOf s) r) :
    read true s = r := by
  cases h with
  | closed h =>
    rw [← flatten_linesOf s, h]
    rfl
  | truncated hne hlines =>
    obtain ⟨length, hlength⟩ := exists_given (linesOf s)
    rw [(read_of_passed (List.append_nil _).symm hlines hlength).1, List.isEmpty_eq_false_iff.2 hne]
    rfl
  | @offence passed behind line e hlines hpassed hline =>
    obtain ⟨length, hlength⟩ := exists_given passed
    rw [read_of_decided hlines hpassed hlength, judge_of_judged hline]
  | ended hlines hpassed hline hlength hbody =>
    rw [read_of_decided hlines hpassed hlength, judge_of_judged hline]
    exact readBody_of_answersBody hbody

theorem exists_first_offence (lines : List (List UInt8)) :
    (∀ line ∈ lines, Passes line) ∨ ∃ passed line behind, lines = passed ++ line :: behind ∧
      (∀ line ∈ passed, Passes line) ∧ ¬ Passes line := by
  induction lines with
  | nil => exact .inl nofun
  | cons line lines ih =>
    by_cases h : Passes line
    · rcases ih with hall | ⟨passed, l, behind, rfl, hpassed, hl⟩
      · exact .inl (List.forall_mem_cons.2 ⟨h, hall⟩)
      · exact .inr ⟨line :: passed, l, behind, rfl, List.forall_mem_cons.2 ⟨h, hpassed⟩, hl⟩
    · exact .inr ⟨[], line, lines, rfl, nofun, h⟩

theorem exists_answers (lines : List (List UInt8)) : ∃ r, Answers lines r := by
  rcases exists_first_offence lines with hall | ⟨passed, line, behind, hlines, hpassed, hline⟩
  · by_cases hne : lines = []
    · exact ⟨_, .closed hne⟩
    · exact ⟨_, .truncated hne hall⟩
  obtain ⟨r, hr⟩ := exists_judged line
  cases r with
  | error e => exact ⟨_, .offence hlines hpassed hr⟩
  | ok meaning =>
    obtain rfl : meaning = .blank := by
      by_contra hne
      exact hline ⟨meaning, hne, hr⟩
    obtain ⟨length, hlength⟩ := exists_given passed
    obtain ⟨r, hbody⟩ := exists_answersBody length behind.flatten
    exact ⟨r, .ended hlines hpassed hr hlength hbody⟩

theorem read_eq_iff {s : List UInt8} {r : Reading} :
    read true s = r ↔ Answers (linesOf s) r := by
  refine ⟨?_, read_of_answers⟩
  rintro rfl
  obtain ⟨r, hr⟩ := exists_answers (linesOf s)
  rwa [read_of_answers hr]

/-! ## Whole streams -/

theorem readAll_of_items {s : List UInt8} {items : List Item} (h : Items s items) :
    readAll s = items := by
  induction h with
  | closed h | failed h => rw [readAll_eq, read_of_answers h]
  | value h hv _ ih | malformed h hv _ ih =>
    rw [readAll_eq, read_of_answers h]
    simp only [Item.ofBody, hv, ih]

theorem items_readAll (s : List UInt8) : Items s (readAll s) := by
  induction hn : s.length using Nat.strongRecOn generalizing s with
  | ind n ih =>
    have hs := read_eq_iff.1 (rfl : read true s = read true s)
    rw [readAll_eq]
    cases hr : read true s with
    | more => exact absurd hr (read_ended_ne_more s)
    | closed => exact .closed (hr ▸ hs)
    | failed e => exact .failed (hr ▸ hs)
    | body body rest =>
      have hrest := ih rest.length (hn ▸ length_rest_read hr) rest rfl
      simp only [Item.ofBody]
      cases hv : Json.ofBytes? body with
      | some v => exact .value (hr ▸ hs) hv hrest
      | none => exact .malformed (hr ▸ hs) hv hrest

/-- **The first offence decides**: the first line that does not pass, and the length that was given
last, frame by frame. -/
theorem first_offence_decides :
    (∀ s r, read true s = r ↔ Answers (linesOf s) r) ∧
      ∀ s items, readAll s = items ↔ Items s items :=
  ⟨fun _ _ => read_eq_iff, fun s _ => ⟨fun h => h ▸ items_readAll s, readAll_of_items⟩⟩

/-- Of two lengths the last one counts, and a line without a newline can end a header. -/
example : read true (Text.Utf8.encode "Content-Length: 9\nX\ncontent-length : +0\n ".toList) =
    .body [] [] := by decide +kernel

end LintServer.Frame
