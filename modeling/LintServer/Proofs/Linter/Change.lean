import LintServer.Linter
import Mathlib.Tactic.SplitIfs

/-!
# What an action does

Most of what a linter keeps concerns its attempts and their tickets. There are few ways in which an
action can change them, and each but the small steps of an attempt on its way to a ticket leaves a
mark.

* `Mark`, `Linter.mark?`: what is remembered of an action;
* `startedIn`, `completedIn`: the runs that have started, and those that have come to their end;
* `Effect.notices`: what the editor is told;
* `Change`, **`change_step`**: all ways in which an action changes attempts and tickets;
* `validate_mem_step_iff`: when the validator starts;
* `Fate`, `Change.fate`: what a change does to one attempt.
-/

namespace LintServer

/-- The ticket of an attempt at a stage, if it has taken one. -/
def Stage.ticket? : Stage → Option Ticket
  | running t => some t
  | _ => none

theorem Stage.ticket?_eq_some_iff {s : Stage} {t : Ticket} :
    s.ticket? = some t ↔ s = .running t := by
  cases s <;> simp [ticket?]

/-- Whether an attempt may still take a ticket, if this is the right syntax. -/
def Attempt.MayStart (a : Attempt) (tag : String) : Prop :=
  match a.stage with
  | .fresh t => t = tag
  | .waiting => True
  | .cleared => True
  | .running _ => False

instance (a : Attempt) (tag : String) : Decidable (a.MayStart tag) :=
  match a with
  | ⟨_, _, .fresh t⟩ => inferInstanceAs (Decidable (t = tag))
  | ⟨_, _, .waiting⟩ => .isTrue trivial
  | ⟨_, _, .cleared⟩ => .isTrue trivial
  | ⟨_, _, .running _⟩ => .isFalse id

/-- What is remembered of an action. -/
inductive Mark where
  /-- A document is to be checked. -/
  | asked (id : Nat) (d : Document)
  /-- The validator starts on a text. -/
  | started (id : Nat) (t : Ticket) (text : String)
  /-- The validator run of an attempt has ended. -/
  | ended (id : Nat) (t : Ticket) (outcome : Except RunError Run)
  /-- The issues of a document are replaced without a run. -/
  | replaced (u : Uri) (findings : List Finding)
  /-- A document is removed. -/
  | removed (u : Uri)

/-- The attempt that a mark is about. -/
def Mark.id? : Mark → Option Nat
  | asked id _ => some id
  | started id _ _ => some id
  | ended id _ _ => some id
  | _ => none

/-- The ticket of a run that starts. -/
def Mark.started? : Mark → Option Ticket
  | started _ t _ => some t
  | _ => none

/-- The ticket of a run that has come to its end. -/
def Mark.completed? : Mark → Option Ticket
  | ended _ t (.ok _) => some t
  | _ => none

/-- The ticket of a run that has ended. -/
def Mark.ended? : Mark → Option Ticket
  | ended _ t _ => some t
  | _ => none

theorem Mark.ended?_eq_some_iff {m : Mark} {t : Ticket} :
    m.ended? = some t ↔ ∃ id outcome, m = ended id t outcome := by
  cases m <;> simp [ended?]

/-- The tickets of the runs that have started. -/
def startedIn (h : List Mark) : List Ticket := h.filterMap Mark.started?

/-- The tickets of the runs that have come to their end. -/
def completedIn (h : List Mark) : List Ticket := h.filterMap Mark.completed?

theorem startedIn_append (h h' : List Mark) : startedIn (h ++ h') = startedIn h ++ startedIn h' :=
  List.filterMap_append

theorem completedIn_append (h h' : List Mark) :
    completedIn (h ++ h') = completedIn h ++ completedIn h' :=
  List.filterMap_append

theorem mem_startedIn_append {h : List Mark} {m : Option Mark} {t : Ticket} :
    t ∈ startedIn (h ++ m.toList) ↔ t ∈ startedIn h ∨ ∃ id x, m = some (.started id t x) := by
  rw [startedIn_append, List.mem_append]
  refine or_congr_right ⟨fun ht => ?_, fun ⟨id, x, hm⟩ => by simp [hm, startedIn, Mark.started?]⟩
  obtain ⟨k, hk, ht⟩ := List.mem_filterMap.1 ht
  cases k with
  | started id t' x =>
    cases ht
    exact ⟨id, x, Option.mem_toList.1 hk⟩
  | _ => cases ht

theorem mem_completedIn_append {h : List Mark} {m : Option Mark} {t : Ticket} :
    t ∈ completedIn (h ++ m.toList) ↔
      t ∈ completedIn h ∨ ∃ id run, m = some (.ended id t (.ok run)) := by
  rw [completedIn_append, List.mem_append]
  refine or_congr_right ⟨fun ht => ?_, fun ⟨id, run, hm⟩ => by simp [hm, completedIn, Mark.completed?]⟩
  obtain ⟨k, hk, ht⟩ := List.mem_filterMap.1 ht
  cases k with
  | ended id t' o =>
    cases o with
    | ok run =>
      cases ht
      exact ⟨id, run, Option.mem_toList.1 hk⟩
    | error e => cases ht
  | _ => cases ht

/-- What the editor is told about documents. -/
def Effect.notice? : Effect → Option Notice
  | tell n => some n
  | _ => none

/-- What the editor is told about documents, one notice after the other. -/
def Effect.notices (effects : List Effect) : List Notice := effects.filterMap notice?

theorem Effect.notices_map_tell (ns : List Notice) : notices (ns.map .tell) = ns := by
  rw [notices, List.filterMap_map]
  exact List.filterMap_some

namespace Linter

/-- What is remembered of an action. -/
def mark? (l : Linter) : Action → Option Mark
  | .check d => some (.asked l.next d)
  | .checkText u text => some (.asked l.next ⟨u, l.settings.tag, text⟩)
  | .advance id =>
    match l.attempts.get? id with
    | some ⟨u, text, .cleared⟩ => some (.started id (l.publisher.begin u).2 text)
    | _ => none
  | .ended id outcome =>
    match l.attempts.get? id with
    | some ⟨_, _, .running t⟩ => some (.ended id t outcome)
    | _ => none
  | .publish u findings => some (.replaced u findings)
  | .retract u => some (.removed u)
  | _ => none

/-- The ways in which an action may change the attempts and the publisher, with the mark that it
leaves and the notices that it causes. -/
inductive Change (l l' : Linter) : Option Mark → List Notice → Prop where
  | asked (d : Document) (stage : Stage)
      (hstage : stage = .fresh d.tag ∨ stage = .cleared ∧ d.tag = l.settings.tag)
      (hattempts : l'.attempts = l.attempts.insert l.next ⟨d.uri, d.text, stage⟩)
      (hpublisher : l'.publisher = l.publisher) (hnext : l'.next = l.next + 1) :
      Change l l' (some (.asked l.next d)) []
  | started (id : Nat) (u : Uri) (text : String)
      (hget : l.attempts.get? id = some ⟨u, text, .cleared⟩)
      (hattempts : l'.attempts =
        l.attempts.insert id ⟨u, text, .running (l.publisher.begin u).2⟩)
      (hpublisher : l'.publisher = (l.publisher.begin u).1) (hnext : l'.next = l.next) :
      Change l l' (some (.started id (l.publisher.begin u).2 text)) []
  | completed (id : Nat) (u : Uri) (text : String) (t : Ticket) (run : Run)
      (hget : l.attempts.get? id = some ⟨u, text, .running t⟩)
      (hattempts : l'.attempts = l.attempts.erase id)
      (hpublisher : l'.publisher = (l.publisher.complete t run.findings).1)
      (hnext : l'.next = l.next) :
      Change l l' (some (.ended id t (.ok run))) (l.publisher.complete t run.findings).2.2
  | abandoned (id : Nat) (u : Uri) (text : String) (t : Ticket) (e : RunError)
      (hget : l.attempts.get? id = some ⟨u, text, .running t⟩)
      (hattempts : l'.attempts = l.attempts.erase id)
      (hpublisher : l'.publisher = l.publisher.abandon t) (hnext : l'.next = l.next) :
      Change l l' (some (.ended id t (.error e))) []
  | replaced (u : Uri) (findings : List Finding)
      (hattempts : l'.attempts = l.attempts)
      (hpublisher : l'.publisher = (l.publisher.publish u findings).1)
      (hnext : l'.next = l.next) :
      Change l l' (some (.replaced u findings)) (l.publisher.publish u findings).2
  | removed (u : Uri)
      (hattempts : l'.attempts = l.attempts)
      (hpublisher : l'.publisher = (l.publisher.retract u).1) (hnext : l'.next = l.next) :
      Change l l' (some (.removed u)) (l.publisher.retract u).2.2
  /-- An attempt goes on that has no ticket and takes none yet. -/
  | moved (id : Nat) (u : Uri) (text : String) (old new : Stage)
      (hget : l.attempts.get? id = some ⟨u, text, old⟩)
      (hmove : old = .fresh l.settings.tag ∧ new = .waiting ∨ old = .waiting ∧ new = .cleared)
      (hlookup : l'.lookup ≠ .unasked)
      (hattempts : l'.attempts = l.attempts.insert id ⟨u, text, new⟩)
      (hpublisher : l'.publisher = l.publisher) (hnext : l'.next = l.next) :
      Change l l' none []
  /-- A document of another syntax is passed over. -/
  | skipped (id : Nat) (u : Uri) (text tag : String)
      (hget : l.attempts.get? id = some ⟨u, text, .fresh tag⟩) (htag : tag ≠ l.settings.tag)
      (hattempts : l'.attempts = l.attempts.erase id)
      (hpublisher : l'.publisher = l.publisher) (hnext : l'.next = l.next) :
      Change l l' none []
  | idle (hattempts : l'.attempts = l.attempts) (hpublisher : l'.publisher = l.publisher)
      (hnext : l'.next = l.next) :
      Change l l' none []

variable {l : Linter}

theorem change_advance (l : Linter) (id : Nat) :
    Change l (l.advance id).1 (l.mark? (.advance id)) (Effect.notices (l.advance id).2) := by
  cases hget : l.attempts.get? id with
  | none =>
    simp only [advance, mark?, hget]
    exact .idle rfl rfl rfl
  | some a =>
    obtain ⟨u, text, stage⟩ := a
    cases stage with
    | fresh tag =>
      simp only [advance, mark?, hget]
      by_cases htag : tag = l.settings.tag
      · rw [if_pos htag]
        subst htag
        unfold askOnce
        split
        · exact .moved id u text _ .waiting hget (.inl ⟨rfl, rfl⟩) (by simp [setStage]) rfl rfl rfl
        · exact .moved id u text _ .waiting hget (.inl ⟨rfl, rfl⟩) (by assumption) rfl rfl rfl
      · rw [if_neg htag]
        exact .skipped id u text tag hget htag rfl rfl rfl
    | waiting =>
      simp only [advance, mark?, hget]
      split
      · rename_i found hlookup
        have hne : l.lookup ≠ .unasked := by rw [hlookup]; simp
        unfold warnOnce
        split_ifs
        · exact .moved id u text _ .cleared hget (.inr ⟨rfl, rfl⟩) hne rfl rfl rfl
        · exact .moved id u text _ .cleared hget (.inr ⟨rfl, rfl⟩) hne rfl rfl rfl
      · exact .idle rfl rfl rfl
    | cleared =>
      simp only [advance, mark?, hget]
      exact .started id u text hget rfl rfl rfl
    | running t =>
      simp only [advance, mark?, hget]
      exact .idle rfl rfl rfl

theorem change_settle (l : Linter) (id : Nat) (outcome : Except RunError Run) :
    Change l (l.settle id outcome).1 (l.mark? (.ended id outcome))
      (Effect.notices (l.settle id outcome).2) := by
  cases hget : l.attempts.get? id with
  | none =>
    simp only [settle, mark?, hget]
    exact .idle rfl rfl rfl
  | some a =>
    obtain ⟨u, text, stage⟩ := a
    cases stage with
    | running t =>
      cases outcome with
      | ok run =>
        simp only [settle, mark?, hget, Effect.notices_map_tell]
        exact .completed id u text t run hget rfl rfl rfl
      | error e =>
        simp only [settle, mark?, hget]
        exact .abandoned id u text t e hget rfl rfl rfl
    | _ =>
      simp only [settle, mark?, hget]
      exact .idle rfl rfl rfl

/-- **There are no other ways.** -/
theorem change_step (l : Linter) (a : Action) :
    Change l (l.step a).1 (l.mark? a) (Effect.notices (l.step a).2) := by
  cases a with
  | check d => exact .asked d _ (.inl rfl) rfl rfl rfl
  | checkText u text => exact .asked ⟨u, l.settings.tag, text⟩ _ (.inr ⟨rfl, rfl⟩) rfl rfl rfl
  | advance id => exact change_advance l id
  | lookedUp found =>
    simp only [step]
    split_ifs
    · exact .idle rfl rfl rfl
    · exact .idle rfl rfl rfl
  | ended id outcome => exact change_settle l id outcome
  | answered choice =>
    simp only [step, takeAnswer]
    split_ifs
    · rcases choice with e | _ | i
      · exact .idle rfl rfl rfl
      · exact .idle rfl rfl rfl
      · simp only []
        split_ifs
        · exact .idle rfl rfl rfl
        · exact .idle rfl rfl rfl
    · exact .idle rfl rfl rfl
  | configShown r => cases r <;> exact .idle rfl rfl rfl
  | installed r =>
    simp only [step, endInstall]
    split_ifs
    · cases r <;> exact .idle rfl rfl rfl
    · exact .idle rfl rfl rfl
  | publish u findings =>
    simp only [step, Effect.notices_map_tell]
    exact .replaced u findings rfl rfl rfl
  | retract u =>
    simp only [step, Effect.notices_map_tell]
    exact .removed u rfl rfl rfl

/-- The validator starts for an attempt when it takes its ticket, and with its text. -/
theorem validate_mem_step_iff (l : Linter) (a : Action) {id : Nat} {command : Command}
    {text : String} : .validate id command text ∈ (l.step a).2 ↔
      command = l.settings.command ∧ ∃ t, l.mark? a = some (.started id t text) := by
  cases a with
  | advance id' =>
    simp only [step, advance, mark?]
    cases hget : l.attempts.get? id' with
    | none => simp
    | some a =>
      obtain ⟨u, x, stage⟩ := a
      cases stage with
      | fresh tag =>
        simp only [askOnce]
        split_ifs
        · split <;> simp
        · simp
      | waiting =>
        simp only [warnOnce]
        split
        · split_ifs <;> simp
        · simp
      | cleared =>
        simp only [launch, List.mem_singleton, Effect.validate.injEq, Option.some.injEq,
          Mark.started.injEq]
        constructor
        · rintro ⟨hid, hc, hx⟩
          exact ⟨hc, _, hid.symm, rfl, hx.symm⟩
        · rintro ⟨hc, t, hid, -, hx⟩
          exact ⟨hid.symm, hc, hx.symm⟩
      | running t => simp
  | ended id' outcome =>
    simp only [step, settle, mark?]
    cases hget : l.attempts.get? id' with
    | none => simp
    | some a =>
      obtain ⟨u, x, stage⟩ := a
      cases stage with
      | running t => cases outcome <;> simp
      | _ => simp
  | answered choice =>
    simp only [step, takeAnswer, mark?]
    split_ifs
    · rcases choice with e | _ | i
      · simp
      · simp
      · simp only []
        split_ifs <;> simp
    · simp
  | configShown r => cases r <;> simp [step, mark?]
  | installed r =>
    simp only [step, endInstall, mark?]
    split_ifs
    · cases r <;> simp
    · simp
  | _ => simp [step, mark?]

/-! ## One attempt -/

/-- What becomes of one attempt in a change. -/
inductive Fate (l l' : Linter) (id : Nat) (m : Option Mark) : Prop where
  | same (hsame : l'.attempts.get? id = l.attempts.get? id) (hm : m.bind Mark.id? ≠ some id)
  | asked (d : Document) (stage : Stage)
      (hstage : stage = .fresh d.tag ∨ stage = .cleared ∧ d.tag = l.settings.tag)
      (hid : id = l.next) (hnew : l'.attempts.get? id = some ⟨d.uri, d.text, stage⟩)
      (hm : m = some (.asked id d))
  | started (u : Uri) (text : String)
      (hold : l.attempts.get? id = some ⟨u, text, .cleared⟩)
      (hnew : l'.attempts.get? id = some ⟨u, text, .running (l.publisher.begin u).2⟩)
      (hpublisher : l'.publisher = (l.publisher.begin u).1)
      (hm : m = some (.started id (l.publisher.begin u).2 text))
  | moved (u : Uri) (text : String) (old new : Stage)
      (hold : l.attempts.get? id = some ⟨u, text, old⟩)
      (hnew : l'.attempts.get? id = some ⟨u, text, new⟩)
      (hmove : old = .fresh l.settings.tag ∧ new = .waiting ∨ old = .waiting ∧ new = .cleared)
      (hlookup : l'.lookup ≠ .unasked) (hm : m = none)
  | skipped (u : Uri) (text tag : String)
      (hold : l.attempts.get? id = some ⟨u, text, .fresh tag⟩) (htag : tag ≠ l.settings.tag)
      (hnew : l'.attempts.get? id = none) (hm : m = none)
  | ended (u : Uri) (text : String) (t : Ticket) (outcome : Except RunError Run)
      (hold : l.attempts.get? id = some ⟨u, text, .running t⟩)
      (hnew : l'.attempts.get? id = none) (hm : m = some (.ended id t outcome))

/-- A change touches one attempt, if any. -/
theorem Change.fate {l' : Linter} {m : Option Mark} {ns : List Notice} (hc : Change l l' m ns)
    (id : Nat) : Fate l l' id m := by
  have hinsert : ∀ {id' : Nat} {a : Attempt}, l'.attempts = l.attempts.insert id' a →
      id ≠ id' → l'.attempts.get? id = l.attempts.get? id := by
    intro id' a h hne
    rw [h, Table.get?_insert, if_neg hne]
  have herase : ∀ {id' : Nat}, l'.attempts = l.attempts.erase id' →
      id ≠ id' → l'.attempts.get? id = l.attempts.get? id := by
    intro id' h hne
    rw [h, Table.get?_erase, if_neg hne]
  cases hc with
  | asked d stage hstage hattempts hpublisher hnext =>
    by_cases hid : id = l.next
    · exact .asked d stage hstage hid (by rw [hattempts, hid, Table.get?_insert, if_pos rfl])
        (by rw [hid])
    · exact .same (hinsert hattempts hid) fun h => hid (Option.some.inj h).symm
  | started id' u text hget hattempts hpublisher hnext =>
    by_cases hid : id = id'
    · subst hid
      exact .started u text hget (by rw [hattempts, Table.get?_insert, if_pos rfl]) hpublisher rfl
    · exact .same (hinsert hattempts hid) fun h => hid (Option.some.inj h).symm
  | completed id' u text t run hget hattempts hpublisher hnext =>
    by_cases hid : id = id'
    · subst hid
      exact .ended u text t _ hget (by rw [hattempts, Table.get?_erase, if_pos rfl]) rfl
    · exact .same (herase hattempts hid) fun h => hid (Option.some.inj h).symm
  | abandoned id' u text t e hget hattempts hpublisher hnext =>
    by_cases hid : id = id'
    · subst hid
      exact .ended u text t _ hget (by rw [hattempts, Table.get?_erase, if_pos rfl]) rfl
    · exact .same (herase hattempts hid) fun h => hid (Option.some.inj h).symm
  | moved id' u text old new hget hmove hlookup hattempts hpublisher hnext =>
    by_cases hid : id = id'
    · subst hid
      exact .moved u text old new hget (by rw [hattempts, Table.get?_insert, if_pos rfl]) hmove
        hlookup rfl
    · exact .same (hinsert hattempts hid) (by simp)
  | skipped id' u text tag hget htag hattempts hpublisher hnext =>
    by_cases hid : id = id'
    · subst hid
      exact .skipped u text tag hget htag (by rw [hattempts, Table.get?_erase, if_pos rfl]) rfl
    · exact .same (herase hattempts hid) (by simp)
  | replaced u findings hattempts hpublisher hnext =>
    exact .same (by rw [hattempts]) (by simp [Mark.id?])
  | removed u hattempts hpublisher hnext => exact .same (by rw [hattempts]) (by simp [Mark.id?])
  | idle hattempts hpublisher hnext => exact .same (by rw [hattempts]) (by simp)

theorem Change.started_ticket {l' : Linter} {id : Nat} {t : Ticket} {x : String} {ns : List Notice}
    (hc : Change l l' (some (.started id t x)) ns) :
    l.attempts.get? id = some ⟨t.uri, x, .cleared⟩ ∧ t = (l.publisher.begin t.uri).2 ∧
      l'.publisher = (l.publisher.begin t.uri).1 := by
  cases hc with
  | started id u x hget hattempts hpublisher hnext => exact ⟨hget, rfl, hpublisher⟩

theorem Change.ended_attempt {l' : Linter} {id : Nat} {t : Ticket} {o : Except RunError Run}
    {ns : List Notice} (hc : Change l l' (some (.ended id t o)) ns) :
    ∃ u x, l.attempts.get? id = some ⟨u, x, .running t⟩ ∧
      l'.attempts = l.attempts.erase id := by
  cases hc with
  | completed id u x t run hget hattempts hpublisher hnext => exact ⟨u, x, hget, hattempts⟩
  | abandoned id u x t e hget hattempts hpublisher hnext => exact ⟨u, x, hget, hattempts⟩

/-! ## What never changes -/

theorem lookup_step (h : l.lookup ≠ .unasked) (a : Action) : (l.step a).1.lookup ≠ .unasked := by
  cases a
  all_goals simp only [step, advance, settle, takeAnswer, endInstall, askOnce, warnOnce]
  all_goals repeat' split
  all_goals first | exact h | simp

@[simp] theorem settings_step (l : Linter) (a : Action) : (l.step a).1.settings = l.settings := by
  cases a
  all_goals simp only [step, advance, settle, takeAnswer, endInstall, askOnce, warnOnce]
  all_goals repeat' split
  all_goals rfl

end Linter

end LintServer
