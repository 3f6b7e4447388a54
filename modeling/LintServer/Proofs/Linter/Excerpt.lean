import LintServer.Proofs.Linter.Change
import LintServer.Proofs.Table
import Mathlib.Data.List.Nodup

/-!
# Linters with fewer attempts

An attempt at a document of another syntax waits to be passed over, and that is all there is to it.
A linter without it, or with another text in its place, goes on in the same way; only the numbers of
the attempts differ.

* `Attempt.Foreign`, `foreign_change`: attempts that are passed over;
* `Alike`, **`Excerpt`**: some of the attempts under new numbers;
* `Effect.renumber`, `withAttempts`: what is left of effects and of a linter;
* `step_apart`: actions that are about no attempt;
* `Upshot`, **`Local`**, `local_advance`, `local_settle`: turns of one attempt;
* `Local.of_mem`, `Local.of_not_mem`: turns of attempts in the excerpt, and of the others.
-/

namespace LintServer

/-- An attempt that is going to be passed over. -/
def Attempt.Foreign (a : Attempt) (tag : String) : Prop := ∃ t, a.stage = .fresh t ∧ t ≠ tag

/-- The same effect for an attempt with another number. -/
def Effect.renumber (f : Nat → Nat) : Effect → Effect
  | validate id command text => validate (f id) command text
  | e => e

/-- Whether an action is about no attempt. -/
def Action.apart : Action → Bool
  | check _ => false
  | checkText _ _ => false
  | advance _ => false
  | ended _ _ => false
  | _ => true

namespace Linter

/-- An attempt stays one that is going to be passed over until it is gone. -/
theorem foreign_change {l l' : Linter} {m : Option Mark} {ns : List Notice} {id : Nat} {a : Attempt}
    (hc : Change l l' m ns) (hget : l'.attempts.get? id = some a)
    (hasked : ∀ d, m = some (.asked id d) → d.uri = a.uri → d.tag ≠ l.settings.tag)
    (hold : ∀ a', l.attempts.get? id = some a' → a'.uri = a.uri → a'.Foreign l.settings.tag) :
    a.Foreign l.settings.tag := by
  cases hc.fate id with
  | same hsame _ => exact hold a (hsame ▸ hget) rfl
  | asked d stage hstage hid hnew hm =>
    rw [hnew] at hget
    cases hget
    have htag := hasked d hm rfl
    rcases hstage with rfl | ⟨_, htag'⟩
    · exact ⟨d.tag, rfl, htag⟩
    · exact absurd htag' htag
  | started v x hcleared hnew _ _ =>
    rw [hnew] at hget
    cases hget
    obtain ⟨t, ht, _⟩ := hold _ hcleared rfl
    cases ht
  | moved v x old new hthere hnew hmove _ _ =>
    rw [hnew] at hget
    cases hget
    obtain ⟨t, ht, hne⟩ := hold _ hthere rfl
    rcases hmove with ⟨rfl, _⟩ | ⟨rfl, _⟩
    · cases ht
      exact absurd rfl hne
    · cases ht
  | skipped v x tag _ _ hnew _ => rw [hnew] at hget; cases hget
  | ended v x t outcome _ hnew _ => rw [hnew] at hget; cases hget

/-- Attempts that are the same, or both going to be passed over. -/
inductive Alike (tag : String) : Option Attempt → Option Attempt → Prop where
  | same (o : Option Attempt) : Alike tag o o
  | foreign {a a' : Attempt} (h : a.Foreign tag) (h' : a'.Foreign tag) :
    Alike tag (some a) (some a')

/-- **Some of the attempts**, numbered by their places in a list. Those left out are going to be
passed over. -/
structure Excerpt (tag : String) (kept : List Nat) (next : Nat)
    (attempts attempts' : Table Nat Attempt) : Prop where
  nodup : kept.Nodup
  lt_next : ∀ id ∈ kept, id < next
  alike : ∀ i id, kept[i]? = some id → Alike tag (attempts.get? id) (attempts'.get? i)
  foreign : ∀ id a, attempts.get? id = some a → id ∉ kept → a.Foreign tag

variable {tag : String} {kept : List Nat} {next id i : Nat}
  {attempts attempts' : Table Nat Attempt} {l : Linter}

theorem excerpt_empty (tag : String) (next : Nat) : Excerpt tag [] next .empty .empty where
  nodup := List.nodup_nil
  lt_next _ h := absurd h List.not_mem_nil
  alike _ _ h := by cases h
  foreign _ _ h := by cases h

namespace Excerpt

variable (h : Excerpt tag kept next attempts attempts')

include h

theorem ask {a a' : Attempt} (ha : Alike tag (some a) (some a')) :
    Excerpt tag (kept ++ [next]) (next + 1) (attempts.insert next a)
      (attempts'.insert kept.length a') where
  nodup := by
    refine List.nodup_append'.2 ⟨h.nodup, List.nodup_singleton _, fun id hid hid' => ?_⟩
    exact Nat.ne_of_lt (h.lt_next id hid) (List.mem_singleton.1 hid')
  lt_next id hid := by
    rcases List.mem_append.1 hid with hid | hid
    · exact Nat.lt_succ_of_lt (h.lt_next id hid)
    · exact List.mem_singleton.1 hid ▸ Nat.lt_succ_self next
  alike i id hi := by
    rw [Table.get?_insert, Table.get?_insert]
    rw [List.getElem?_append] at hi
    split_ifs at hi with hlt
    · rw [if_neg (Nat.ne_of_lt (h.lt_next id (List.mem_of_getElem? hi))),
        if_neg (Nat.ne_of_lt hlt)]
      exact h.alike i id hi
    · obtain ⟨hz, rfl⟩ : i - kept.length = 0 ∧ next = id := by
        simpa [List.getElem?_singleton] using hi
      rw [if_pos rfl, if_pos (by omega)]
      exact ha
  foreign id a' hget hid := by
    rw [List.mem_append, List.mem_singleton, not_or] at hid
    rw [Table.get?_insert, if_neg hid.2] at hget
    exact h.foreign id a' hget hid.1

theorem pass {a : Attempt} (ha : a.Foreign tag) :
    Excerpt tag kept (next + 1) (attempts.insert next a) attempts' where
  nodup := h.nodup
  lt_next id hid := Nat.lt_succ_of_lt (h.lt_next id hid)
  alike i id hi := by
    have hmem : id ∈ kept := List.mem_of_getElem? hi
    rw [Table.get?_insert, if_neg (Nat.ne_of_lt (h.lt_next id hmem))]
    exact h.alike i id hi
  foreign id a' hget hid := by
    rw [Table.get?_insert] at hget
    split_ifs at hget
    · cases hget
      exact ha
    · exact h.foreign id a' hget hid

theorem ne_of_ne {j id' : Nat} (hi : kept[i]? = some id) (hj : kept[j]? = some id') :
    id' = id ↔ j = i := by
  constructor
  · rintro rfl
    exact (List.getElem?_inj (List.getElem?_eq_some_iff.1 hj).1 h.nodup).1 (hj.trans hi.symm)
  · rintro rfl
    exact Option.some.inj (hj.symm.trans hi)

theorem set (hi : kept[i]? = some id) (a : Attempt) :
    Excerpt tag kept next (attempts.insert id a) (attempts'.insert i a) where
  nodup := h.nodup
  lt_next := h.lt_next
  alike j id' hj := by
    rw [Table.get?_insert, Table.get?_insert]
    by_cases he : j = i
    · rw [if_pos he, if_pos ((h.ne_of_ne hi hj).2 he)]
      exact .same _
    · rw [if_neg he, if_neg (mt (h.ne_of_ne hi hj).1 he)]
      exact h.alike j id' hj
  foreign id' a' hget hid := by
    have hne : id' ≠ id := fun e => hid (e ▸ List.mem_of_getElem? hi)
    rw [Table.get?_insert, if_neg hne] at hget
    exact h.foreign id' a' hget hid

theorem drop (hi : kept[i]? = some id) :
    Excerpt tag kept next (attempts.erase id) (attempts'.erase i) where
  nodup := h.nodup
  lt_next := h.lt_next
  alike j id' hj := by
    rw [Table.get?_erase, Table.get?_erase]
    by_cases he : j = i
    · rw [if_pos he, if_pos ((h.ne_of_ne hi hj).2 he)]
      exact .same _
    · rw [if_neg he, if_neg (mt (h.ne_of_ne hi hj).1 he)]
      exact h.alike j id' hj
  foreign id' a' hget hid := by
    rw [Table.get?_erase] at hget
    split_ifs at hget
    exact h.foreign id' a' hget hid

theorem drop_other (hid : id ∉ kept) : Excerpt tag kept next (attempts.erase id) attempts' where
  nodup := h.nodup
  lt_next := h.lt_next
  alike j id' hj := by
    have hne : id' ≠ id := fun e => hid (e ▸ List.mem_of_getElem? hj)
    rw [Table.get?_erase, if_neg hne]
    exact h.alike j id' hj
  foreign id' a' hget hid' := by
    rw [Table.get?_erase] at hget
    split_ifs at hget
    exact h.foreign id' a' hget hid'

end Excerpt

/-! ## Actions -/

/-- The same linter with other attempts. -/
def withAttempts (l : Linter) (attempts : Table Nat Attempt) (next : Nat) : Linter :=
  { l with attempts, next }

/-- An action that is about no attempt does not look at them. -/
theorem step_apart {a : Action} (ha : a.apart = true) (l : Linter) :
    (l.step a).1.attempts = l.attempts ∧ (l.step a).1.next = l.next ∧
      (∀ f, (l.step a).2.map (Effect.renumber f) = (l.step a).2) ∧
      ∀ attempts n, (l.withAttempts attempts n).step a =
        ((l.step a).1.withAttempts attempts n, (l.step a).2) := by
  cases a with
  | check d => cases ha
  | checkText u text => cases ha
  | advance id => cases ha
  | ended id outcome => cases ha
  | lookedUp found =>
    by_cases hasked : l.lookup = .asked <;> simp [step, withAttempts, hasked]
  | answered choice =>
    by_cases hshown : l.warning = .shown
    · rcases choice with e | _ | i
      · simp [step, takeAnswer, withAttempts, hshown, Effect.renumber]
      · simp [step, takeAnswer, withAttempts, hshown]
      · by_cases hi : i = helpAction <;>
          simp [step, takeAnswer, withAttempts, hshown, hi, Effect.renumber]
    · simp [step, takeAnswer, withAttempts, hshown]
  | configShown r => cases r <;> simp [step, withAttempts, Effect.renumber]
  | installed r =>
    by_cases hrun : l.installation = .installing
    · cases r <;> simp [step, endInstall, withAttempts, hrun, Effect.renumber]
    · simp [step, endInstall, withAttempts, hrun]
  | publish u findings => simp [step, withAttempts, Effect.renumber]
  | retract u => simp [step, withAttempts, Effect.renumber]

/-! ## One attempt -/

/-- What becomes of an attempt. -/
inductive Upshot where
  | stays
  | goesOn (a : Attempt)
  | isOver

/-- The attempts after one of them has had its turn. -/
def Upshot.apply (o : Upshot) (id : Nat) (attempts : Table Nat Attempt) : Table Nat Attempt :=
  match o with
  | stays => attempts
  | goesOn a => attempts.insert id a
  | isOver => attempts.erase id

theorem Excerpt.apply (h : Excerpt tag kept next attempts attempts') (hi : kept[i]? = some id)
    (o : Upshot) : Excerpt tag kept next (o.apply id attempts) (o.apply i attempts') := by
  cases o with
  | stays => exact h
  | goesOn a => exact h.set hi a
  | isOver => exact h.drop hi

/-- **A turn of one attempt.** It depends on the attempt and on what all share, but not on the other
attempts, and little comes of it if the attempt is going to be passed over. -/
structure Local (turn : Linter → Nat → Linter × List Effect) : Prop where
  absent : ∀ (l : Linter) (id : Nat), l.attempts.get? id = none → turn l id = (l, [])
  foreign : ∃ o : Upshot, (∀ a, o ≠ .goesOn a) ∧ ∀ (l : Linter) (id : Nat) (a : Attempt),
    l.attempts.get? id = some a → a.Foreign l.settings.tag →
      turn l id = (l.withAttempts (o.apply id l.attempts) l.next, [])
  present : ∀ (l : Linter) (a : Attempt), ∃ (shared : Linter) (o : Upshot) (effects : List Effect),
    ∀ attempts n id, attempts.get? id = some a → turn (l.withAttempts attempts n) id =
      (shared.withAttempts (o.apply id attempts) n, effects.map (Effect.renumber fun _ => id))

theorem local_advance : Local advance where
  absent l id hget := by simp only [advance, hget]
  foreign := by
    refine ⟨.isOver, by simp, ?_⟩
    rintro l id a hget ⟨t, hstage, hne⟩
    simp only [advance, hget, hstage, if_neg hne]
    rfl
  present l a := by
    obtain ⟨u, text, stage⟩ := a
    cases stage with
    | fresh t =>
      by_cases ht : t = l.settings.tag
      · refine ⟨l.askOnce.1, .goesOn ⟨u, text, .waiting⟩, l.askOnce.2, fun attempts n id hget => ?_⟩
        cases hlookup : l.lookup <;>
          simp [advance, withAttempts, hget, ht, askOnce, hlookup, setStage, Upshot.apply,
            Effect.renumber]
      · refine ⟨l, .isOver, [], fun attempts n id hget => ?_⟩
        simp [advance, withAttempts, hget, ht, dropAttempt, Upshot.apply]
    | waiting =>
      cases hlookup : l.lookup with
      | answered found =>
        refine ⟨(l.warnOnce found).1, .goesOn ⟨u, text, .cleared⟩, (l.warnOnce found).2,
          fun attempts n id hget => ?_⟩
        by_cases hwarn : !found && l.warning = .unsent <;>
          simp [advance, withAttempts, hget, hlookup, warnOnce, hwarn, setStage, Upshot.apply,
            Effect.renumber]
      | unasked =>
        refine ⟨l, .stays, [], fun attempts n id hget => ?_⟩
        simp [advance, withAttempts, hget, hlookup, Upshot.apply]
      | asked =>
        refine ⟨l, .stays, [], fun attempts n id hget => ?_⟩
        simp [advance, withAttempts, hget, hlookup, Upshot.apply]
    | cleared =>
      refine ⟨{ l with publisher := (l.publisher.begin u).1 },
        .goesOn ⟨u, text, .running (l.publisher.begin u).2⟩,
        [.validate 0 l.settings.command text], fun attempts n id hget => ?_⟩
      simp [advance, withAttempts, hget, launch, setStage, Upshot.apply, Effect.renumber]
    | running t =>
      refine ⟨l, .stays, [], fun attempts n id hget => ?_⟩
      simp [advance, withAttempts, hget, Upshot.apply]

theorem local_settle (outcome : Except RunError Run) : Local fun l id => l.settle id outcome where
  absent l id hget := by simp only [settle, hget]
  foreign := by
    refine ⟨.stays, by simp, ?_⟩
    rintro l id ⟨u, text, _⟩ hget ⟨t, rfl, _⟩
    simp only [settle, hget]
    rfl
  present l a := by
    obtain ⟨u, text, stage⟩ := a
    cases stage with
    | running t =>
      cases outcome with
      | ok run =>
        refine ⟨{ l with publisher := (l.publisher.complete t run.findings).1 }, .isOver,
          (l.publisher.complete t run.findings).2.2.map .tell, fun attempts n id hget => ?_⟩
        simp [settle, withAttempts, hget, dropAttempt, Upshot.apply, Effect.renumber]
      | error e =>
        refine ⟨{ l with publisher := l.publisher.abandon t }, .isOver, [.log (runWarning u e)],
          fun attempts n id hget => ?_⟩
        simp [settle, withAttempts, hget, dropAttempt, Upshot.apply, Effect.renumber]
    | _ =>
      refine ⟨l, .stays, [], fun attempts n id hget => ?_⟩
      simp [settle, withAttempts, hget, Upshot.apply]

namespace Local

variable {turn : Linter → Nat → Linter × List Effect}

theorem of_mem (hturn : Local turn)
    (h : Excerpt l.settings.tag kept l.next l.attempts attempts') (hi : kept[i]? = some id)
    {f : Nat → Nat} (hf : f id = i) (n : Nat) : ∃ attempts'',
      turn (l.withAttempts attempts' n) i =
        ((turn l id).1.withAttempts attempts'' n, (turn l id).2.map (Effect.renumber f)) ∧
      (turn l id).1.next = l.next ∧
      Excerpt l.settings.tag kept l.next (turn l id).1.attempts attempts'' := by
  have halike := h.alike i id hi
  generalize hget : l.attempts.get? id = o at halike
  generalize hget' : attempts'.get? i = o' at halike
  cases halike with
  | foreign ha ha' =>
    obtain ⟨o, -, ho⟩ := hturn.foreign
    rw [ho l id _ hget ha, ho (l.withAttempts attempts' n) i _ hget' ha']
    exact ⟨_, rfl, rfl, h.apply hi o⟩
  | same =>
    cases o with
    | none =>
      rw [hturn.absent l id hget, hturn.absent (l.withAttempts attempts' n) i hget']
      exact ⟨_, rfl, rfl, h⟩
    | some a =>
      obtain ⟨shared, o, effects, ho⟩ := hturn.present l a
      have hid : turn l id = _ := ho l.attempts l.next id hget
      rw [hid, ho attempts' n i hget']
      refine ⟨_, Prod.ext rfl ?_, rfl, h.apply hi o⟩
      rw [List.map_map]
      refine List.map_congr_left fun e _ => ?_
      cases e <;> simp [Effect.renumber, hf]

theorem of_foreign (hturn : Local turn)
    (h : ∀ a, l.attempts.get? id = some a → a.Foreign l.settings.tag) :
    ∃ o : Upshot, (∀ a, o ≠ .goesOn a) ∧
      turn l id = (l.withAttempts (o.apply id l.attempts) l.next, []) := by
  cases hget : l.attempts.get? id with
  | none => exact ⟨.stays, by simp, hturn.absent l id hget⟩
  | some a =>
    obtain ⟨o, hne, ho⟩ := hturn.foreign
    exact ⟨o, hne, ho l id a hget (h a hget)⟩

theorem of_not_mem (hturn : Local turn)
    (h : Excerpt l.settings.tag kept l.next l.attempts attempts') (hid : id ∉ kept) :
    ∃ attempts, turn l id = (l.withAttempts attempts l.next, []) ∧
      Excerpt l.settings.tag kept l.next attempts attempts' := by
  obtain ⟨o, hne, ho⟩ := hturn.of_foreign fun a hget => h.foreign id a hget hid
  refine ⟨_, ho, ?_⟩
  cases o with
  | stays => exact h
  | isOver => exact h.drop_other hid
  | goesOn a => exact absurd rfl (hne a)

end Local

end Linter

end LintServer
