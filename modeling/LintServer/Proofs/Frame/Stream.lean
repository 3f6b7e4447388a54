import LintServer.Frame
import Mathlib.Tactic.SplitIfs

/-!
# Streams that arrive in pieces

Bytes arrive in pieces of any size. What can be told of the start of a stream stays true when more
of it arrives, so a reader that takes frames as soon as it can gets the frames of the whole stream.

* `Reading.append`: what there is at the start when more has arrived behind it;
* **`read_append`**: what has been read stays read;
* `read_ended_ne_more`: at the end there is always something to tell;
* `length_rest_read`: every frame takes at least one byte;
* **`readAll_eq`**: the items of a stream, the first one apart from the others.
-/

namespace LintServer.Frame

/-- What there is at the start of a stream when more has arrived behind it. -/
def Reading.append (more : List UInt8) : Reading → Reading
  | body bytes rest => body bytes (rest ++ more)
  | r => r

variable {ended : Bool} {s more : List UInt8}

/-! ## Pieces -/

theorem Reading.append_nil (r : Reading) : r.append [] = r := by
  cases r with
  | body bytes rest => exact congrArg (body bytes) (List.append_nil rest)
  | _ => rfl

theorem readBody_more {length : Option Nat} (h : readBody false length s ≠ .more) :
    readBody true length (s ++ more) = (readBody false length s).append more := by
  cases length with
  | none => rfl
  | some n =>
    by_cases hbig : maxLength < n
    · simp only [readBody, if_pos hbig]
      rfl
    · have hn : n ≤ s.length := by
        refine Nat.not_lt.1 fun hshort => h ?_
        have htake : min n s.length ≠ n := by omega
        simp [readBody, hbig, htake]
      simp only [readBody, if_neg hbig, List.take_append_of_le_length hn,
        List.drop_append_of_le_length hn, List.length_take_of_le hn, if_true]
      rfl

theorem readHeader_more {header : Header} (h : readHeader false header s ≠ .more) :
    readHeader true header (s ++ more) = (readHeader false header s).append more := by
  induction s generalizing header with
  | nil => exact absurd rfl h
  | cons b s ih =>
    rw [List.cons_append]
    unfold readHeader at h ⊢
    split_ifs at h ⊢
    · cases hj : judge header.line.reverse with
      | error e => rfl
      | ok meaning =>
        rw [hj] at h
        cases meaning with
        | blank => exact readBody_more h
        | length n => exact ih h
        | other => exact ih h
    · exact ih h

/-- **What has been read stays read**, whatever arrives behind it. -/
theorem read_append (h : read ended s ≠ .more) (hmore : ended = true → more = []) :
    read true (s ++ more) = (read ended s).append more := by
  cases ended with
  | false => exact readHeader_more h
  | true => rw [hmore rfl, List.append_nil, Reading.append_nil]

/-! ## The end of a stream -/

theorem readBody_ended_ne_more (length : Option Nat) : readBody true length s ≠ .more := by
  cases length with
  | none => exact Reading.noConfusion
  | some n =>
    simp only [readBody]
    split_ifs <;> exact Reading.noConfusion

theorem readHeader_ended_ne_more (header : Header) : readHeader true header s ≠ .more := by
  induction s generalizing header with
  | nil =>
    unfold readHeader
    split_ifs with h
    · cases h
    · exact Reading.noConfusion
    · exact Reading.noConfusion
    · split
      · exact Reading.noConfusion
      · exact readBody_ended_ne_more _
      · exact Reading.noConfusion
  | cons b s ih =>
    unfold readHeader
    split_ifs
    · split
      · exact Reading.noConfusion
      · exact readBody_ended_ne_more _
      · exact ih _
      · exact ih _
    · exact ih _

/-- **At the end of a stream** there is always something to tell. -/
theorem read_ended_ne_more (s : List UInt8) : read true s ≠ .more := readHeader_ended_ne_more _

/-! ## Items -/

theorem length_rest_readBody {length : Option Nat} {body rest : List UInt8}
    (h : readBody ended length s = .body body rest) : rest.length ≤ s.length := by
  cases length with
  | none => cases h
  | some n =>
    simp only [readBody] at h
    split_ifs at h
    cases h
    rw [List.length_drop]
    exact Nat.sub_le _ _

theorem length_rest_readHeader {header : Header} {body rest : List UInt8}
    (h : readHeader ended header s = .body body rest) : rest.length ≤ s.length := by
  induction s generalizing header with
  | nil =>
    unfold readHeader at h
    split_ifs at h
    split at h
    · cases h
    · exact length_rest_readBody h
    · cases h
  | cons b s ih =>
    refine Nat.le_succ_of_le ?_
    unfold readHeader at h
    split_ifs at h
    · split at h
      · cases h
      · exact length_rest_readBody h
      · exact ih h
      · exact ih h
    · exact ih h

/-- Every frame takes at least one byte. -/
theorem length_rest_read {body rest : List UInt8} (h : read ended s = .body body rest) :
    rest.length < s.length := by
  cases s with
  | nil => cases ended <;> cases h
  | cons b s =>
    refine Nat.lt_succ_of_le ?_
    unfold read readHeader at h
    split_ifs at h
    · split at h
      · cases h
      · exact length_rest_readBody h
      · exact length_rest_readHeader h
      · exact length_rest_readHeader h
    · exact length_rest_readHeader h

/-- How many items may be read does not matter, as long as there may be one more than bytes. -/
theorem readItems_eq {fuel : Nat} (hfuel : s.length < fuel) (done : List Item) :
    readItems fuel done s = done.reverse ++ readAll s := by
  induction hn : s.length using Nat.strongRecOn generalizing s fuel done with
  | ind n ih =>
    obtain ⟨fuel, rfl⟩ := Nat.exists_eq_succ_of_ne_zero (Nat.ne_of_gt (Nat.zero_lt_of_lt hfuel))
    rw [readAll, readItems, readItems]
    cases hr : read true s with
    | more => exact (List.append_nil _).symm
    | closed => exact List.reverse_cons
    | failed e => exact List.reverse_cons
    | body body rest =>
      have hrest := length_rest_read hr
      have ih : ∀ {fuel}, rest.length < fuel → ∀ done, readItems fuel done rest = _ :=
        fun h done => ih rest.length (hn ▸ hrest) h done rfl
      simp only []
      rw [ih (by omega), ih hrest, List.reverse_cons, List.append_assoc]
      rfl

/-- **The items of a stream**, the first one apart from the others. -/
theorem readAll_eq (s : List UInt8) : readAll s =
    match read true s with
    | .more => []
    | .closed => [.closed]
    | .failed e => [.failed e]
    | .body body rest => .ofBody body :: readAll rest := by
  rw [readAll, readItems]
  cases hr : read true s with
  | body body rest => exact readItems_eq (length_rest_read hr) _
  | _ => rfl

end LintServer.Frame
