import LintServer.Proofs.Linter.Change
import LintServer.Proofs.Publisher.Balance
import LintServer.Proofs.Table

/-!
# The tickets of the attempts

The tickets that are out are those of the attempts whose validator runs. No attempt loses its ticket
and no two share one, whatever happens.

* `Linter.tickets`, `mem_ticketsOf_iff`: the tickets of the attempts;
* `Orderly.tickets_change`: the tickets after a change;
* **`Orderly`**, **`Orderly.step`**: the bookkeeping of the publisher fits them;
* `mem_tickets_change`: where a ticket comes from;
* `isStale_change`: what makes a ticket stale.
-/

namespace LintServer.Linter

variable {l l' : Linter} {attempts : Table Nat Attempt} {id id' : Nat} {u : Uri} {text : String}
  {t t' : Ticket} {m : Option Mark} {ns : List Notice}

/-- The tickets among some attempts. -/
def ticketsOf (attempts : Table Nat Attempt) : List Ticket :=
  attempts.values.filterMap fun a => a.stage.ticket?

/-- The tickets of the attempts. -/
def tickets (l : Linter) : List Ticket := ticketsOf l.attempts

theorem mem_ticketsOf_iff :
    t ∈ ticketsOf attempts ↔ ∃ id u text, attempts.get? id = some ⟨u, text, .running t⟩ := by
  simp only [ticketsOf, List.mem_filterMap, Table.mem_values_iff, Stage.ticket?_eq_some_iff]
  constructor
  · rintro ⟨⟨u, text, _⟩, ⟨id, hget⟩, rfl⟩
    exact ⟨id, u, text, hget⟩
  · rintro ⟨id, u, text, hget⟩
    exact ⟨_, ⟨id, hget⟩, rfl⟩

theorem ticketsOf_insert (attempts : Table Nat Attempt) (id : Nat) (a : Attempt) :
    ticketsOf (attempts.insert id a) = a.stage.ticket?.toList ++ ticketsOf (attempts.erase id) := by
  unfold ticketsOf Table.insert Table.values
  rw [List.map_cons, List.filterMap_cons]
  cases a.stage.ticket? <;> rfl

theorem ticketsOf_perm {a : Attempt} (h : attempts.get? id = some a) :
    (ticketsOf attempts).Perm (a.stage.ticket?.toList ++ ticketsOf (attempts.erase id)) := by
  rw [← ticketsOf_insert]
  exact ((Table.entries_perm h).map Prod.snd).filterMap _

theorem ticketsOf_erase (h : attempts.get? id = none) :
    ticketsOf (attempts.erase id) = ticketsOf attempts := by
  change ((attempts.others id).map Prod.snd).filterMap _ = _
  rw [Table.others_eq_entries h]
  rfl

theorem ticketsOf_move {a a' : Attempt} (h : attempts.get? id = some a)
    (ha : a.stage.ticket? = none) (ha' : a'.stage.ticket? = none) :
    (ticketsOf attempts).Perm (ticketsOf (attempts.insert id a')) := by
  have hp := ticketsOf_perm h
  rw [ha] at hp
  rwa [ticketsOf_insert, ha']

/-- **The bookkeeping fits the attempts.** -/
structure Orderly (l : Linter) : Prop where
  balanced : l.publisher.Balanced l.tickets
  id_lt : ∀ id a, l.attempts.get? id = some a → id < l.next
  /-- A ticket belongs to the document of its attempt. -/
  uri_eq : ∀ id u text t, l.attempts.get? id = some ⟨u, text, .running t⟩ → t.uri = u

theorem orderly_start (s : ValidatorSettings) (installed : Bool) : (start s installed).1.Orderly where
  balanced := Publisher.balanced_empty
  id_lt id a h := by cases h
  uri_eq id u text t h := by cases h

namespace Orderly

theorem mem_tickets (hget : l.attempts.get? id = some ⟨u, text, .running t⟩) : t ∈ l.tickets :=
  mem_ticketsOf_iff.2 ⟨id, u, text, hget⟩

theorem get?_next (h : l.Orderly) : l.attempts.get? l.next = none :=
  Option.eq_none_iff_forall_ne_some.2 fun a ha => Nat.lt_irrefl _ (h.id_lt _ a ha)

theorem erase_perm (hget : l.attempts.get? id = some ⟨u, text, .running t⟩) :
    (l.tickets.erase t).Perm (ticketsOf (l.attempts.erase id)) := by
  have hp := (ticketsOf_perm hget).erase t
  simpa [tickets, Stage.ticket?] using hp

theorem mem_tickets_erase_iff (h : l.Orderly)
    (hget : l.attempts.get? id = some ⟨u, text, .running t⟩)
    (hattempts : l'.attempts = l.attempts.erase id) :
    t' ∈ l'.tickets ↔ t' ≠ t ∧ t' ∈ l.tickets := by
  rw [tickets, hattempts, ← (erase_perm hget).mem_iff, h.balanced.nodup.mem_erase_iff]

/-! ## A change -/

theorem tickets_change (h : l.Orderly) (hc : Change l l' m ns) : l'.tickets.Perm
    ((m.bind Mark.started?).toList ++ (m.bind Mark.ended?).elim l.tickets l.tickets.erase) := by
  cases hc with
  | asked d stage hstage hattempts hpublisher hnext =>
    have hnone : stage.ticket? = none := by rcases hstage with rfl | ⟨rfl, _⟩ <;> rfl
    rw [tickets, hattempts, ticketsOf_insert, hnone, ticketsOf_erase h.get?_next]
    exact .refl _
  | started id u text hget hattempts hpublisher hnext =>
    rw [tickets, hattempts, ticketsOf_insert]
    exact ((ticketsOf_perm hget).cons _).symm
  | completed id u text t run hget hattempts hpublisher hnext =>
    rw [tickets, hattempts]
    exact (erase_perm hget).symm
  | abandoned id u text t e hget hattempts hpublisher hnext =>
    rw [tickets, hattempts]
    exact (erase_perm hget).symm
  | moved id u text old new hget hmove hlookup hattempts hpublisher hnext =>
    rw [tickets, hattempts]
    refine (ticketsOf_move hget ?_ ?_).symm
    · rcases hmove with ⟨rfl, _⟩ | ⟨rfl, _⟩ <;> rfl
    · rcases hmove with ⟨_, rfl⟩ | ⟨_, rfl⟩ <;> rfl
  | skipped id u text tag hget htag hattempts hpublisher hnext =>
    rw [tickets, hattempts]
    exact (ticketsOf_perm hget).symm
  | replaced u findings hattempts hpublisher hnext => rw [tickets, hattempts]; exact .refl _
  | removed u hattempts hpublisher hnext => rw [tickets, hattempts]; exact .refl _
  | idle hattempts hpublisher hnext => rw [tickets, hattempts]; exact .refl _

theorem balanced_change (h : l.Orderly) (hc : Change l l' m ns) :
    l'.publisher.Balanced l'.tickets := by
  have ht := h.tickets_change hc
  cases hc with
  | asked d stage hstage hattempts hpublisher hnext =>
    exact hpublisher ▸ h.balanced.perm ht.symm
  | started id u text hget hattempts hpublisher hnext =>
    exact hpublisher ▸ (h.balanced.begin u).perm ht.symm
  | completed id u text t run hget hattempts hpublisher hnext =>
    exact hpublisher ▸ (h.balanced.complete (mem_tickets hget) _).perm ht.symm
  | abandoned id u text t e hget hattempts hpublisher hnext =>
    exact hpublisher ▸ (h.balanced.retire (mem_tickets hget)).perm ht.symm
  | replaced u findings hattempts hpublisher hnext =>
    exact hpublisher ▸ (h.balanced.publish u findings).perm ht.symm
  | removed u hattempts hpublisher hnext =>
    exact hpublisher ▸ (h.balanced.retract u).perm ht.symm
  | moved id u text old new hget hmove hlookup hattempts hpublisher hnext =>
    exact hpublisher ▸ h.balanced.perm ht.symm
  | skipped id u text tag hget htag hattempts hpublisher hnext =>
    exact hpublisher ▸ h.balanced.perm ht.symm
  | idle hattempts hpublisher hnext => exact hpublisher ▸ h.balanced.perm ht.symm

end Orderly

theorem next_le (hc : Change l l' m ns) : l.next ≤ l'.next := by
  cases hc with
  | asked d stage hstage hattempts hpublisher hnext => omega
  | _ => exact Nat.le_of_eq (Eq.symm (by assumption))

theorem next_of_asked {d : Document} (hc : Change l l' (some (.asked id d)) ns) :
    id = l.next ∧ l'.next = l.next + 1 := by
  cases hc with
  | asked d stage hstage hattempts hpublisher hnext => exact ⟨rfl, hnext⟩

theorem Orderly.change (h : l.Orderly) (hc : Change l l' m ns) : l'.Orderly where
  balanced := h.balanced_change hc
  id_lt id a hget := by
    have hle := next_le hc
    cases hc.fate id with
    | same hsame hm => exact Nat.lt_of_lt_of_le (h.id_lt id _ (hsame ▸ hget)) hle
    | asked d stage hstage hid hnew hm =>
      subst hm
      have := (next_of_asked hc).2
      omega
    | started u text hold hnew hpublisher hm => exact Nat.lt_of_lt_of_le (h.id_lt id _ hold) hle
    | moved u text old new hold hnew hmove hlookup hm =>
      exact Nat.lt_of_lt_of_le (h.id_lt id _ hold) hle
    | skipped u text tag hold htag hnew hm => rw [hnew] at hget; cases hget
    | ended u text t outcome hold hnew hm => rw [hnew] at hget; cases hget
  uri_eq id u text t hget := by
    cases hc.fate id with
    | same hsame hm => exact h.uri_eq id u text t (hsame ▸ hget)
    | asked d stage hstage hid hnew hm =>
      rw [hnew] at hget
      cases hget
      rcases hstage with h | ⟨h, _⟩ <;> cases h
    | started v x hold hnew hpublisher hm =>
      rw [hnew] at hget
      cases hget
      rfl
    | moved v x old new hold hnew hmove hlookup hm =>
      rw [hnew] at hget
      cases hget
      rcases hmove with ⟨_, h⟩ | ⟨_, h⟩ <;> cases h
    | skipped v x tag hold htag hnew hm => rw [hnew] at hget; cases hget
    | ended v x t outcome hold hnew hm => rw [hnew] at hget; cases hget

theorem mem_tickets_change (hc : Change l l' m ns) (ht : t ∈ l'.tickets) :
    t ∈ l.tickets ∨ ∃ id text, m = some (.started id t text) ∧ t = (l.publisher.begin t.uri).2 := by
  obtain ⟨id, u, text, hget⟩ := mem_ticketsOf_iff.1 ht
  cases hc.fate id with
  | same hsame hm => exact .inl (mem_ticketsOf_iff.2 ⟨id, u, text, hsame ▸ hget⟩)
  | asked d stage hstage hid hnew hm =>
    rw [hnew] at hget
    cases hget
    rcases hstage with h | ⟨h, _⟩ <;> cases h
  | started v x hold hnew hpublisher hm =>
    rw [hnew] at hget
    cases hget
    exact .inr ⟨id, _, hm, rfl⟩
  | moved v x old new hold hnew hmove hlookup hm =>
    rw [hnew] at hget
    cases hget
    rcases hmove with ⟨_, h⟩ | ⟨_, h⟩ <;> cases h
  | skipped v x tag hold htag hnew hm => rw [hnew] at hget; cases hget
  | ended v x t outcome hold hnew hm => rw [hnew] at hget; cases hget

theorem isStale_of_started (hl : l.Orderly) (hc : Change l l' (some (.started id t text)) ns) :
    l'.publisher.isStale t = false := by
  obtain ⟨_, ht, hp⟩ := hc.started_ticket
  rw [hp, ht]
  exact hl.balanced.isStale_new t.uri

theorem mem_tickets_of_change (hc : Change l l' m ns) (hle : t.number ≤ l.publisher.issued)
    (ht : t ∈ l'.tickets) : t ∈ l.tickets := by
  refine (mem_tickets_change hc ht).resolve_right ?_
  rintro ⟨id, text, _, heq⟩
  rw [heq] at hle
  exact Nat.not_succ_le_self _ hle

/-- **What makes a run worthless**: its document is removed or replaced, or a later run on it is
applied. -/
theorem isStale_change (hl : l.Orderly) (hc : Change l l' m ns) (ht : t ∈ l.tickets)
    (ht' : t ∈ l'.tickets) : l'.publisher.isStale t = true ↔ l.publisher.isStale t = true ∨
      m = some (.removed t.uri) ∨ (∃ findings, m = some (.replaced t.uri findings)) ∨
      ∃ id t' run, m = some (.ended id t' (.ok run)) ∧ l.publisher.isStale t' = false ∧
        t'.uri = t.uri ∧ t.number < t'.number := by
  cases hc with
  | completed id u text t' run hget hattempts hpublisher hnext =>
    obtain ⟨hne, -⟩ := (hl.mem_tickets_erase_iff hget hattempts).1 ht'
    rw [hpublisher, hl.balanced.isStale_complete (Orderly.mem_tickets hget) ht hne]
    simp [eq_comm (a := t.uri)]
  | abandoned id u text t' e hget hattempts hpublisher hnext =>
    obtain ⟨hne, -⟩ := (hl.mem_tickets_erase_iff hget hattempts).1 ht'
    rw [hpublisher, Publisher.abandon,
      hl.balanced.isStale_retire (Orderly.mem_tickets hget) ht hne]
    simp
  | replaced u findings hattempts hpublisher hnext =>
    rw [hpublisher, hl.balanced.isStale_publish u findings ht]
    simp [eq_comm (a := t.uri)]
  | removed u hattempts hpublisher hnext =>
    rw [hpublisher, hl.balanced.isStale_retract u ht]
    simp [eq_comm (a := t.uri)]
  | started id u text hget hattempts hpublisher hnext =>
    rw [hpublisher]
    simp [Publisher.begin, Publisher.isStale]
  | asked d stage hstage hattempts hpublisher hnext => simp [hpublisher]
  | moved id u text old new hget hmove hlookup hattempts hpublisher hnext => simp [hpublisher]
  | skipped id u text tag hget htag hattempts hpublisher hnext => simp [hpublisher]
  | idle hattempts hpublisher hnext => simp [hpublisher]

/-- **The tickets stay in order**, whatever happens. -/
theorem Orderly.step (h : l.Orderly) (a : Action) : (l.step a).1.Orderly :=
  h.change (change_step l a)

end LintServer.Linter
