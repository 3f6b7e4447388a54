import LintServer.Proofs.Linter.Change

/-!
# The search for the runner

All attempts share one search for the runner and one warning. The first attempt that comes to the
search starts it, the first one that learns of its failure warns the user, and the first answer to
the warning ends the matter.

* `Linter.Inquiry`, **`inquiry_step`**: what an action is to the search and the warning;
* `Inquiry.search`, `Inquiry.answered`: the search goes on, starts or ends, and its answer stays.
-/

namespace LintServer

/-- The program that is to be looked up. -/
def Effect.program? : Effect → Option String
  | lookUp program => some program
  | _ => none

/-- Whether an effect turns to the user. -/
def Effect.addresses : Effect → Bool
  | notify _ => true
  | showConfig => true
  | _ => false

namespace Linter

/-- What an action may be to the search for the runner and to the warning. -/
inductive Inquiry (l l' : Linter) : Option Action → List Effect → Prop where
  /-- An attempt comes to the search, and nobody has started it. -/
  | asks (id : Nat) (u : Uri) (text : String)
      (hget : l.attempts.get? id = some ⟨u, text, .fresh l.settings.tag⟩)
      (hbefore : l.lookup = .unasked) (hlookup : l'.lookup = .asked)
      (hwarning : l'.warning = l.warning) :
      Inquiry l l' (some (.advance id)) [.lookUp l.settings.runner]
  | learns (found : Bool) (hbefore : l.lookup = .asked) (hlookup : l'.lookup = .answered found)
      (hwarning : l'.warning = l.warning) : Inquiry l l' (some (.lookedUp found)) []
  | warns (id : Nat) (e : Log.Entry) (hmissing : l.lookup = .answered false)
      (hbefore : l.warning = .unsent) (hlookup : l'.lookup = l.lookup)
      (hwarning : l'.warning = .shown) :
      Inquiry l l' (some (.advance id)) [.log e, .notify l.settings.missingRunner]
  /-- The user wants to see the configuration. -/
  | helps (hbefore : l.warning = .shown) (hlookup : l'.lookup = l.lookup)
      (hwarning : l'.warning = .answered) :
      Inquiry l l' (some (.answered (.ok (some helpAction)))) [.showConfig]
  /-- The user wants nothing, or does not answer. -/
  | leaves (choice : Except HostError (Option Nat)) (es : List Effect)
      (hbefore : l.warning = .shown) (hlookup : l'.lookup = l.lookup)
      (hwarning : l'.warning = .answered) (hprograms : es.filterMap Effect.program? = [])
      (hes : ∀ e ∈ es, e.addresses = false) : Inquiry l l' (some (.answered choice)) es
  | aside (a : Option Action) (es : List Effect) (hlookup : l'.lookup = l.lookup)
      (hwarning : l'.warning = l.warning)
      (hanswer : ∀ choice, a = some (.answered choice) → l.warning ≠ .shown)
      (hprograms : es.filterMap Effect.program? = []) (hes : ∀ e ∈ es, e.addresses = false) :
      Inquiry l l' a es

variable {l : Linter}

theorem inquiry_idle (l : Linter) {a : Action} (ha : ∀ choice, a ≠ .answered choice) :
    Inquiry l l (some a) [] :=
  .aside _ _ rfl rfl (fun choice h => absurd (Option.some.inj h) (ha choice)) rfl (by simp)

theorem inquiry_advance (l : Linter) (id : Nat) :
    Inquiry l (l.advance id).1 (some (.advance id)) (l.advance id).2 := by
  have hne : ∀ choice, Action.advance id ≠ .answered choice := by simp
  cases hget : l.attempts.get? id with
  | none =>
    simp only [advance, hget]
    exact inquiry_idle l hne
  | some a =>
    obtain ⟨u, text, stage⟩ := a
    cases stage with
    | fresh tag =>
      simp only [advance, hget]
      by_cases htag : tag = l.settings.tag
      · subst htag
        rw [if_pos rfl]
        unfold askOnce
        split
        · exact .asks id u text hget (by assumption) rfl rfl
        · exact .aside _ _ rfl rfl (by simp) rfl (by simp)
      · rw [if_neg htag]
        exact .aside _ _ rfl rfl (by simp) rfl (by simp)
    | waiting =>
      simp only [advance, hget]
      split
      · rename_i found hfound
        unfold warnOnce
        split_ifs with hwarn
        · obtain ⟨hmissing, hunsent⟩ := Bool.and_eq_true_iff.1 hwarn
          obtain rfl : found = false := by simpa using hmissing
          exact .warns id _ hfound (of_decide_eq_true hunsent) rfl rfl
        · exact .aside _ _ rfl rfl (by simp) rfl (by simp)
      · exact inquiry_idle l hne
    | cleared =>
      simp only [advance, hget]
      exact .aside _ _ rfl rfl (by simp) rfl (by simp [launch, Effect.addresses])
    | running t =>
      simp only [advance, hget]
      exact inquiry_idle l hne

theorem inquiry_settle (l : Linter) (id : Nat) (outcome : Except RunError Run) :
    Inquiry l (l.settle id outcome).1 (some (.ended id outcome)) (l.settle id outcome).2 := by
  unfold settle
  split
  · split
    · refine .aside _ _ rfl rfl (by simp) ?_ ?_
      · exact List.filterMap_eq_nil_iff.2 (by simp [Effect.program?])
      · simp [Effect.addresses]
    · exact .aside _ _ rfl rfl (by simp) rfl (by simp [Effect.addresses])
  · exact inquiry_idle l (by simp)

theorem inquiry_takeAnswer (l : Linter) (choice : Except HostError (Option Nat)) :
    Inquiry l (l.takeAnswer choice).1 (some (.answered choice)) (l.takeAnswer choice).2 := by
  unfold takeAnswer
  split_ifs with hshown
  · rcases choice with e | _ | i
    · exact .leaves _ _ hshown rfl rfl rfl (by simp [Effect.addresses])
    · exact .leaves _ _ hshown rfl rfl rfl (by simp)
    · by_cases hi : i = helpAction
      · simp only [if_pos hi]
        rw [hi]
        exact .helps hshown rfl rfl
      · simp only [if_neg hi]
        exact .leaves _ _ hshown rfl rfl rfl (by simp)
  · exact .aside _ _ rfl rfl (fun _ _ => hshown) rfl (by simp)

/-- **There is nothing else** that an action can be. -/
theorem inquiry_step (l : Linter) (a : Action) :
    Inquiry l (l.step a).1 (some a) (l.step a).2 := by
  have htell : ∀ ns : List Notice, (ns.map Effect.tell).filterMap Effect.program? = [] ∧
      ∀ e ∈ ns.map Effect.tell, e.addresses = false := fun ns =>
    ⟨List.filterMap_eq_nil_iff.2 (by simp [Effect.program?]), by simp [Effect.addresses]⟩
  cases a with
  | advance id => exact inquiry_advance l id
  | ended id outcome => exact inquiry_settle l id outcome
  | answered choice => exact inquiry_takeAnswer l choice
  | lookedUp found =>
    simp only [step]
    split_ifs with hasked
    · exact .learns found hasked rfl rfl
    · exact inquiry_idle l (by simp)
  | configShown r =>
    cases r with
    | ok _ => exact inquiry_idle l (by simp)
    | error e => exact .aside _ _ rfl rfl (by simp) rfl (by simp [step, Effect.addresses])
  | installed r =>
    simp only [step, endInstall]
    split_ifs
    · cases r <;> exact .aside _ _ rfl rfl (by simp) rfl (by simp [Effect.addresses])
    · exact inquiry_idle l (by simp)
  | publish u findings =>
    obtain ⟨hprograms, hes⟩ := htell (l.publisher.publish u findings).2
    exact .aside _ _ rfl rfl (by simp) hprograms hes
  | retract u =>
    obtain ⟨hprograms, hes⟩ := htell (l.publisher.retract u).2.2
    exact .aside _ _ rfl rfl (by simp) hprograms hes
  | check d => exact .aside _ _ rfl rfl (by simp) rfl (by simp [step])
  | checkText u text => exact .aside _ _ rfl rfl (by simp) rfl (by simp [step])

theorem Inquiry.search {l' : Linter} {a : Option Action} {es : List Effect}
    (h : Inquiry l l' a es) :
    (l'.lookup = l.lookup ∧ es.filterMap Effect.program? = []) ∨
      (l.lookup = .unasked ∧ l'.lookup = .asked ∧
        es.filterMap Effect.program? = [l.settings.runner] ∧
        ∃ id u text, l.attempts.get? id = some ⟨u, text, .fresh l.settings.tag⟩) ∨
      ∃ found, l.lookup = .asked ∧ l'.lookup = .answered found ∧
        es.filterMap Effect.program? = [] ∧ a = some (.lookedUp found) := by
  cases h with
  | asks id u text hget hbefore hlookup hwarning =>
    exact .inr (.inl ⟨hbefore, hlookup, rfl, id, u, text, hget⟩)
  | learns found hbefore hlookup hwarning => exact .inr (.inr ⟨found, hbefore, hlookup, rfl, rfl⟩)
  | warns id e hmissing hbefore hlookup hwarning => exact .inl ⟨hlookup, rfl⟩
  | helps hbefore hlookup hwarning => exact .inl ⟨hlookup, rfl⟩
  | leaves choice es hbefore hlookup hwarning hprograms hes => exact .inl ⟨hlookup, hprograms⟩
  | aside a es hlookup hwarning hanswer hprograms hes => exact .inl ⟨hlookup, hprograms⟩

theorem Inquiry.answered {l' : Linter} {a : Option Action} {es : List Effect}
    (h : Inquiry l l' a es) {found : Bool} (hfound : l.lookup = .answered found) :
    l'.lookup = .answered found := by
  rcases h.search with ⟨hsame, _⟩ | ⟨hbefore, _⟩ | ⟨_, hbefore, _⟩
  · exact hsame.trans hfound
  · rw [hfound] at hbefore; cases hbefore
  · rw [hfound] at hbefore; cases hbefore

end Linter

end LintServer
