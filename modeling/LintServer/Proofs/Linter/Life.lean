import LintServer.Proofs.Linter.Tickets
import LintServer.Proofs.Publisher.Mirror

/-!
# The life of an attempt

An attempt is asked for, goes on until it has a ticket, runs, and is over. It never goes back.

* `Asked`: it waits only for what has been asked;
* `Calm`, **`Calm.change`**: no attempt at a document will start any more;
* `pending_change`, `running_change`, `over_change`: one attempt and any change;
* `unapplied_change`: a change that applies nothing to a document;
* `untracked_change`: a change and a document that is not tracked.
-/

namespace LintServer.Linter

variable {l l' : Linter} {id : Nat} {u : Uri} {text : String} {t : Ticket} {m : Option Mark}
  {ns : List Notice}

/-! ## Before the start -/

/-- An attempt waits only for what has been asked. -/
def Asked (l : Linter) : Prop :=
  ∀ id u text, l.attempts.get? id = some ⟨u, text, .waiting⟩ → l.lookup ≠ .unasked

theorem Asked.change (h : l.Asked) (hc : Change l l' m ns)
    (hmono : l.lookup ≠ .unasked → l'.lookup ≠ .unasked) : l'.Asked := by
  intro id u text hget
  cases hc.fate id with
  | same hsame hm => exact hmono (h id u text (hsame ▸ hget))
  | asked d stage hstage hid hnew hm =>
    rw [hnew] at hget
    cases hget
    rcases hstage with h | ⟨h, _⟩ <;> cases h
  | started v x hold hnew hpublisher hm => rw [hnew] at hget; cases hget
  | moved v x old new hold hnew hmove hlookup hm => exact hlookup
  | skipped v x tag hold htag hnew hm => rw [hnew] at hget; cases hget
  | ended v x t outcome hold hnew hm => rw [hnew] at hget; cases hget

theorem not_mayStart_change (hc : Change l l' m ns) (hsettings : l'.settings = l.settings)
    {a : Attempt} (hget : l'.attempts.get? id = some a)
    (hasked : ∀ d, m = some (.asked id d) → d.uri ≠ a.uri)
    (hold : ∀ a', l.attempts.get? id = some a' → a'.uri = a.uri → ¬ a'.MayStart l.settings.tag) :
    ¬ a.MayStart l'.settings.tag := by
  rw [hsettings]
  cases hc.fate id with
  | same hsame hm => exact hold a (hsame ▸ hget) rfl
  | asked d stage hstage hid hnew hm =>
    rw [hnew] at hget
    cases hget
    exact absurd rfl (hasked d hm)
  | started v x hcleared hnew hpublisher hm =>
    rw [hnew] at hget
    cases hget
    exact not_false
  | moved v x old new hthere hnew hmove hlookup hm =>
    rw [hnew] at hget
    cases hget
    refine absurd ?_ (hold _ hthere rfl)
    rcases hmove with ⟨rfl, _⟩ | ⟨rfl, _⟩
    · exact rfl
    · exact trivial
  | skipped v x tag hthere htag hnew hm => rw [hnew] at hget; cases hget
  | ended v x t outcome hthere hnew hm => rw [hnew] at hget; cases hget

/-- No attempt at a document will start any more. -/
def Calm (l : Linter) (u : Uri) : Prop :=
  ∀ id a, l.attempts.get? id = some a → a.uri = u → ¬ a.MayStart l.settings.tag

theorem calm_of_values (h : ∀ a ∈ l.attempts.values, ¬ a.MayStart l.settings.tag) (u : Uri) :
    l.Calm u := fun id a hget _ => h a ((Table.mem_values_iff _ a).2 ⟨id, hget⟩)

/-- **Without a new attempt** at a document none starts. -/
theorem Calm.change (hcalm : l.Calm u) (hc : Change l l' m ns)
    (hsettings : l'.settings = l.settings) (hasked : ∀ id d, m = some (.asked id d) → d.uri ≠ u) :
    l'.Calm u ∧ ∀ id t text, m = some (.started id t text) → t.uri ≠ u := by
  refine ⟨fun id a hget hu => ?_, fun id t text hm => ?_⟩
  · exact not_mayStart_change hc hsettings hget (fun d hm => hu ▸ hasked id d hm)
      fun a' hget' hu' => hcalm id a' hget' (hu' ▸ hu)
  · rintro rfl
    cases hm
    cases hc with
    | started id u text hget hattempts hpublisher hnext => exact hcalm id _ hget rfl trivial

/-! ## One attempt and a change -/

theorem pending_change (hl : l.Orderly) (hc : Change l l' m ns) {stage : Stage}
    (hget : l.attempts.get? id = some ⟨u, text, stage⟩)
    (hmay : (⟨u, text, stage⟩ : Attempt).MayStart l.settings.tag) :
    (l'.publisher = (l.publisher.begin u).1 ∧ m = some (.started id (l.publisher.begin u).2 text) ∧
        l'.attempts.get? id = some ⟨u, text, .running (l.publisher.begin u).2⟩) ∨
      (∃ stage', l'.attempts.get? id = some ⟨u, text, stage'⟩ ∧
        (⟨u, text, stage'⟩ : Attempt).MayStart l.settings.tag) ∧ m.bind Mark.id? ≠ some id := by
  cases hc.fate id with
  | same hsame hm => exact .inr ⟨⟨stage, hsame.trans hget, hmay⟩, hm⟩
  | asked d new hstage hid hnew hm => exact absurd hid (Nat.ne_of_lt (hl.id_lt id _ hget))
  | started v x hold hnew hpublisher hm =>
    rw [hget] at hold
    cases hold
    exact .inl ⟨hpublisher, hm, hnew⟩
  | moved v x old new hold hnew hmove hlookup hm =>
    rw [hget] at hold
    cases hold
    refine .inr ⟨⟨new, hnew, ?_⟩, by rw [hm]; simp⟩
    rcases hmove with ⟨_, rfl⟩ | ⟨_, rfl⟩ <;> exact trivial
  | skipped v x tag hold htag hnew hm =>
    rw [hget] at hold
    cases hold
    exact absurd hmay htag
  | ended v x t outcome hold hnew hm =>
    rw [hget] at hold
    cases hold
    exact hmay.elim

theorem running_change (hl : l.Orderly) (hc : Change l l' m ns)
    (hget : l.attempts.get? id = some ⟨u, text, .running t⟩) :
    (l'.attempts.get? id = none ∧ ∃ o, m = some (.ended id t o)) ∨
      l'.attempts.get? id = some ⟨u, text, .running t⟩ ∧ m.bind Mark.id? ≠ some id := by
  cases hc.fate id with
  | same hsame hm => exact .inr ⟨hsame.trans hget, hm⟩
  | asked d new hstage hid hnew hm => exact absurd hid (Nat.ne_of_lt (hl.id_lt id _ hget))
  | started v x hold hnew hpublisher hm => rw [hget] at hold; cases hold
  | moved v x old new hold hnew hmove hlookup hm =>
    rw [hget] at hold
    cases hold
    rcases hmove with ⟨h, _⟩ | ⟨h, _⟩ <;> cases h
  | skipped v x tag hold htag hnew hm => rw [hget] at hold; cases hold
  | ended v x t' outcome hold hnew hm =>
    rw [hget] at hold
    cases hold
    exact .inl ⟨hnew, outcome, hm⟩

theorem over_change (hc : Change l l' m ns) (hget : l.attempts.get? id = none)
    (hid : id < l.next) : l'.attempts.get? id = none ∧ m.bind Mark.id? ≠ some id := by
  cases hc.fate id with
  | same hsame hm => exact ⟨hsame.trans hget, hm⟩
  | asked d new hstage hnext hnew hm => exact absurd hnext (Nat.ne_of_lt hid)
  | started v x hold hnew hpublisher hm => rw [hget] at hold; cases hold
  | moved v x old new hold hnew hmove hlookup hm => rw [hget] at hold; cases hold
  | skipped v x tag hold htag hnew hm => rw [hget] at hold; cases hold
  | ended v x t outcome hold hnew hm => rw [hget] at hold; cases hold

/-! ## The publisher and a change -/

theorem issued_le_change (hc : Change l l' m ns) : l.publisher.issued ≤ l'.publisher.issued := by
  cases hc with
  | started id v text hget hattempts hpublisher hnext => rw [hpublisher]; exact Nat.le_succ _
  | completed id v text t run hget hattempts hpublisher hnext =>
    rw [hpublisher]
    cases hs : l.publisher.isStale t with
    | true => rw [Publisher.complete_of_stale hs, Publisher.retire_issued]
    | false => rw [Publisher.complete_of_fresh hs, Publisher.retire_issued]; exact Nat.le_refl _
  | abandoned id v text t e hget hattempts hpublisher hnext =>
    rw [hpublisher]
    exact Nat.le_of_eq (Publisher.retire_issued _ _).symm
  | replaced v findings hattempts hpublisher hnext =>
    rw [hpublisher]
    exact Nat.le_of_eq (Publisher.invalidate_issued _ _).symm
  | removed v hattempts hpublisher hnext =>
    rw [hpublisher]
    exact Nat.le_of_eq (Publisher.invalidate_issued _ _).symm
  | _ => exact Nat.le_of_eq (congrArg Publisher.issued (Eq.symm (by assumption)))

/-- **A change that applies nothing** to a document publishes nothing, and leaves its issues and the
staleness of its tickets as they are. -/
theorem unapplied_change (hl : l.Orderly) (hc : Change l l' m ns)
    (hreplaced : ∀ findings, m ≠ some (.replaced u findings)) (hremoved : m ≠ some (.removed u))
    (hold : ∀ id t run, m = some (.ended id t (.ok run)) → t.uri = u →
      l.publisher.isStale t = true) :
    (∀ issues, .publish u issues ∉ ns) ∧ l'.publisher.issues? u = l.publisher.issues? u ∧
      ∀ t ∈ l'.tickets, t ∈ l.tickets → t.uri = u →
        l'.publisher.isStale t = l.publisher.isStale t := by
  have hstale : ∀ t ∈ l'.tickets, t ∈ l.tickets → t.uri = u →
      l'.publisher.isStale t = l.publisher.isStale t := by
    intro t ht' ht hu
    rw [Bool.eq_iff_iff, isStale_change hl hc ht ht']
    refine or_iff_left ?_
    rintro (hm | ⟨findings, hm⟩ | ⟨id, t', run, hm, hs, hu', -⟩)
    · exact hremoved (hu ▸ hm)
    · exact hreplaced findings (hu ▸ hm)
    · rw [hold id t' run hm (hu'.trans hu)] at hs
      cases hs
  rw [← and_assoc]
  refine ⟨?_, hstale⟩
  cases hc with
  | asked d stage hstage hattempts hpublisher hnext =>
    rw [hpublisher]
    exact ⟨by simp, rfl⟩
  | started id v text hget hattempts hpublisher hnext =>
    rw [hpublisher]
    exact ⟨by simp, rfl⟩
  | completed id v text t₀ run hget hattempts hpublisher hnext =>
    rw [hpublisher]
    cases hs : l.publisher.isStale t₀ with
    | true =>
      rw [Publisher.complete_of_stale hs, Publisher.issues?_retire]
      exact ⟨by simp, rfl⟩
    | false =>
      have hu : t₀.uri ≠ u := by
        intro hu
        rw [hold id t₀ run rfl hu] at hs
        cases hs
      rw [Publisher.complete_of_fresh hs, Publisher.issues?_retire, Publisher.issues?_accept,
        if_neg (Ne.symm hu)]
      exact ⟨by simp [Ne.symm hu], rfl⟩
  | abandoned id v text t₀ e hget hattempts hpublisher hnext =>
    rw [hpublisher]
    exact ⟨by simp, Publisher.issues?_retire _ _ _⟩
  | replaced v findings hattempts hpublisher hnext =>
    have hne : u ≠ v := fun e => hreplaced findings (e ▸ rfl)
    rw [hpublisher, Publisher.issues?_publish, if_neg hne]
    exact ⟨by simp [Publisher.publish, Publisher.apply, hne], rfl⟩
  | removed v hattempts hpublisher hnext =>
    have hne : u ≠ v := fun e => hremoved (e ▸ rfl)
    rw [hpublisher, Publisher.issues?_retract, if_neg hne]
    refine ⟨?_, rfl⟩
    simp only [Publisher.retract]
    split_ifs <;> simp
  | moved id v text old new hget hmove hlookup hattempts hpublisher hnext =>
    rw [hpublisher]
    exact ⟨by simp, rfl⟩
  | skipped id v text tag hget htag hattempts hpublisher hnext =>
    rw [hpublisher]
    exact ⟨by simp, rfl⟩
  | idle hattempts hpublisher hnext =>
    rw [hpublisher]
    exact ⟨by simp, rfl⟩

/-- A document that is not tracked stays so and nobody is told about it, unless a run on it ends or
it is given issues. -/
theorem untracked_change (hc : Change l l' m ns) (hu : l.publisher.issues? u = none)
    (hreplaced : ∀ findings, m ≠ some (.replaced u findings))
    (hended : ∀ id t outcome, m = some (.ended id t outcome) → t.uri ≠ u) :
    (∀ n ∈ ns, n.uri ≠ u) ∧ l'.publisher.issues? u = none := by
  cases hc with
  | completed id v text t run hget hattempts hpublisher hnext =>
    have hne := hended id t (.ok run) rfl
    rw [hpublisher]
    cases hs : l.publisher.isStale t with
    | true =>
      rw [Publisher.complete_of_stale hs, Publisher.issues?_retire]
      exact ⟨by simp, hu⟩
    | false =>
      rw [Publisher.complete_of_fresh hs, Publisher.issues?_retire, Publisher.issues?_accept,
        if_neg hne.symm]
      exact ⟨by simpa [Notice.uri] using hne, hu⟩
  | abandoned id v text t e hget hattempts hpublisher hnext =>
    rw [hpublisher, Publisher.abandon, Publisher.issues?_retire]
    exact ⟨by simp, hu⟩
  | replaced v findings hattempts hpublisher hnext =>
    have hne : v ≠ u := fun e => hreplaced findings (e ▸ rfl)
    rw [hpublisher, Publisher.issues?_publish, if_neg hne.symm]
    exact ⟨by simpa [Publisher.publish, Publisher.apply, Notice.uri] using hne, hu⟩
  | removed v hattempts hpublisher hnext =>
    rw [hpublisher, Publisher.issues?_retract]
    refine ⟨fun n hn => ?_, by split_ifs <;> simp [hu]⟩
    simp only [Publisher.retract] at hn
    split_ifs at hn with hknown
    · -- Only what is tracked is cleared.
      rintro rfl
      rw [List.mem_singleton.1 hn] at hu
      exact absurd ((Table.contains_eq_false_iff _ _).2 hu) (by simp [Notice.uri, hknown])
    · cases hn
  | started id v text hget hattempts hpublisher hnext => rw [hpublisher]; exact ⟨by simp, hu⟩
  | _ => exact ⟨by simp, by simp_all⟩

end LintServer.Linter
