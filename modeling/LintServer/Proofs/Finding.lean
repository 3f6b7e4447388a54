import LintServer.Finding
import LintServer.Proofs.Json.RoundTrip

/-!
# What an issue tells of its finding

A message holds the token that was found as a string literal, and behind it the one that was expected
as it is. A literal tells by itself where it ends, so both tokens can be taken from the message,
whatever they hold. The columns go up by one, and only the two greatest ones become the same.

* `toNat_nextColumn`, `nextColumn_eq_iff`: the next column;
* `Finding.literal`, `Finding.message_eq`: the pieces of a message;
* `Finding.message_eq_iff`: findings with the same message;
* **`Issue.ofFinding_eq_iff`**: findings that are shown as the same issue.
-/

namespace LintServer

/-! ## Columns -/

theorem toNat_nextColumn (c : UInt32) : (nextColumn c).toNat = min (c.toNat + 1) 4294967295 := by
  have hlt := c.toNat_lt
  unfold nextColumn
  split_ifs with h
  · rw [h]
    decide
  · have hne : c.toNat ≠ 4294967295 := fun e => h (UInt32.toNat_inj.1 e)
    rw [UInt32.toNat_add, UInt32.toNat_one]
    omega

theorem nextColumn_eq_iff (c d : UInt32) :
    nextColumn c = nextColumn d ↔ c = d ∨ 4294967294 ≤ c ∧ 4294967294 ≤ d := by
  have hc := c.toNat_lt
  have hd := d.toNat_lt
  have htop : (4294967294 : UInt32).toNat = 4294967294 := rfl
  rw [← UInt32.toNat_inj, ← UInt32.toNat_inj, toNat_nextColumn, toNat_nextColumn,
    UInt32.le_iff_toNat_le, UInt32.le_iff_toNat_le, htop]
  omega

/-! ## Messages -/

namespace Finding

/-- The token that was found, as a JSON text. -/
def literal (f : Finding) : String := Json.render (.string f.found)

theorem toList_literal (f : Finding) : f.literal.toList = Json.Literal.chars f.found.toList :=
  Json.toList_render (.string f.found)

theorem parse?_literal (f : Finding) : Json.parse? f.literal.toList = some (.string f.found) :=
  Json.parse?_render (.string f.found) (Nat.zero_le _)

theorem message_eq (f : Finding) :
    f.message = "Found " ++ f.literal ++ "; Expected " ++ f.expected := by
  apply String.toList_inj.1
  simp only [message, String.toList_append, Json.Literal.toList_write, toList_literal]

theorem toList_message (f : Finding) : f.message.toList = "Found ".toList ++
    (Json.Literal.chars f.found.toList ++ ("; Expected ".toList ++ f.expected.toList)) := by
  rw [message_eq]
  simp only [String.toList_append, toList_literal, List.append_assoc]

theorem eq_of_toList_message {f : Finding} {token rest : List Char}
    (h : f.message.toList = "Found ".toList ++ (Json.Literal.chars token ++ rest)) :
    token = f.found.toList ∧ rest = "; Expected ".toList ++ f.expected.toList := by
  rw [toList_message] at h
  obtain ⟨htoken, hrest⟩ := Json.Literal.chars_append_inj.1 (List.append_cancel_left h)
  exact ⟨htoken.symm, hrest.symm⟩

/-- **A message determines both tokens.** -/
theorem message_eq_iff (a b : Finding) :
    a.message = b.message ↔ a.found = b.found ∧ a.expected = b.expected := by
  constructor
  · intro h
    have hlist := congrArg String.toList h
    rw [toList_message b] at hlist
    obtain ⟨hfound, hrest⟩ := eq_of_toList_message hlist
    have hexpected := List.append_cancel_left hrest
    exact ⟨(String.toList_inj.1 hfound).symm, (String.toList_inj.1 hexpected).symm⟩
  · rintro ⟨hfound, hexpected⟩
    rw [message_eq, message_eq, literal, literal, hfound, hexpected]

end Finding

/-! ## Issues -/

/-- **What an issue tells of its finding**: both tokens and the line, and the column but for the two
greatest ones. -/
theorem Issue.ofFinding_eq_iff (a b : Finding) :
    ((ofFinding a).message = (ofFinding b).message ↔
      a.found = b.found ∧ a.expected = b.expected) ∧
    (∃ literal : String,
      (ofFinding a).message = "Found " ++ literal ++ "; Expected " ++ a.expected ∧
      Json.parse? literal.toList = some (.string a.found)) ∧
    (∀ token rest,
      (ofFinding a).message.toList = "Found ".toList ++ (Json.Literal.chars token ++ rest) →
      token = a.found.toList ∧ rest = "; Expected ".toList ++ a.expected.toList) ∧
    (ofFinding a = ofFinding b ↔ a.found = b.found ∧ a.expected = b.expected ∧ a.line = b.line ∧
      (a.column = b.column ∨ 4294967294 ≤ a.column ∧ 4294967294 ≤ b.column)) := by
  refine ⟨a.message_eq_iff b, ⟨a.literal, a.message_eq, a.parse?_literal⟩,
    fun token rest => Finding.eq_of_toList_message, ?_⟩
  simp only [ofFinding, Issue.mk.injEq, true_and, nextColumn_eq_iff, Finding.message_eq_iff]
  constructor
  · rintro ⟨hline, hcolumn, hfound, hexpected⟩
    exact ⟨hfound, hexpected, hline, hcolumn⟩
  · rintro ⟨hfound, hexpected, hline, hcolumn⟩
    exact ⟨hline, hcolumn, hfound, hexpected⟩

/-- The separator stands in a token; unescaped, the two messages would be the same. The greatest
column is shown as the one before it. -/
theorem Issue.separator_in_token_told_apart :
    let a : Finding := ⟨1, 4294967294, "x\"; Expected \"y", "z"⟩
    let b : Finding := ⟨1, 4294967294, "x", "\"y\"; Expected z"⟩
    let c : Finding := ⟨1, 4294967295, "x\"; Expected \"y", "z"⟩
    let rest := "; Expected z".toList
    (ofFinding a).message ≠ (ofFinding b).message ∧ ofFinding a = ofFinding c ∧
    (ofFinding a).message.toList = "Found ".toList ++ (Json.Literal.chars a.found.toList ++ rest) ∧
    rest = "; Expected ".toList ++ a.expected.toList := by
  intro a b c rest
  have hrest : rest = "; Expected ".toList ++ a.expected.toList := by decide
  have hmessage : (ofFinding a).message.toList =
      "Found ".toList ++ (Json.Literal.chars a.found.toList ++ rest) := by
    rw [hrest]
    exact a.toList_message
  refine ⟨fun h => ?_, ?_, hmessage, ((ofFinding_eq_iff a a).2.2.1 _ _ hmessage).2⟩
  · exact absurd ((ofFinding_eq_iff a b).1.1 h).1 (by decide)
  · exact (ofFinding_eq_iff a c).2.2.2.2 ⟨rfl, rfl, rfl, .inr (by decide)⟩

end LintServer
