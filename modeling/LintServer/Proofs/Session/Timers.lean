import LintServer.Session
import LintServer.Proofs.Table

/-!
# Timers of open documents

Every timer under way is the one of an open document, and its event carries the document as it is
now: an edit replaces the timer of the edit before, and a document that is opened again or closed
loses it.

* `Session.Ticking`: whether a document waits for its timer;
* **`Session.Timed`**: timers belong to documents, and documents to editors;
* `Timed.openDocument`, `changeDocument`, `closeDocument`: whatever happens;
* **`Timed.fire`**: what comes of a timer.
-/

namespace LintServer.Session

variable {s : Session} {u : Uri} {d : OpenDocument}

/-- Whether the timer of a document is under way. -/
def Ticking (s : Session) (d : OpenDocument) : Prop := ∃ t ∈ s.timers, d.timer = some t.id

/-- **Timers belong to documents**, and documents to editors. -/
structure Timed (s : Session) : Prop where
  timer_lt : ∀ u d id, s.documents.get? u = some d → d.timer = some id → id < s.nextTimer
  timer_inj : s.documents.Separates fun d d' => ∃ id, d.timer = some id ∧ d'.timer = some id
  /-- The event of a timer is that its document, as it is now, has come to rest. -/
  owned : ∀ t ∈ s.timers, ∃ u d, s.documents.get? u = some d ∧ d.timer = some t.id ∧
    t.event = .settled d.editor (d.snapshot u)
  nodup : (s.timers.map Timer.id).Nodup
  editor_le : ∀ u d, s.documents.get? u = some d → d.editor.number ≤ s.editors
  editor_inj : s.documents.Separates fun d d' => d.editor = d'.editor

theorem timed_start (quiet : Nat) : (start quiet).Timed where
  timer_lt u d id h := by cases h
  timer_inj u u' d d' h := by cases h
  owned t ht := absurd ht List.not_mem_nil
  nodup := List.nodup_nil
  editor_le u d h := by cases h
  editor_inj u u' d d' h := by cases h

/-! ## Timers that are stopped -/

section Stop

variable (s : Session) (o : Option Nat)

@[simp] theorem stopTimer_documents : (s.stopTimer o).documents = s.documents := by cases o <;> rfl

@[simp] theorem stopTimer_nextTimer : (s.stopTimer o).nextTimer = s.nextTimer := by cases o <;> rfl

@[simp] theorem stopTimer_clock : (s.stopTimer o).clock = s.clock := by cases o <;> rfl

@[simp] theorem stopTimer_quiet : (s.stopTimer o).quiet = s.quiet := by cases o <;> rfl

@[simp] theorem stopTimer_editors : (s.stopTimer o).editors = s.editors := by cases o <;> rfl

theorem mem_stopTimer_iff (t : Timer) :
    t ∈ (s.stopTimer o).timers ↔ t ∈ s.timers ∧ o ≠ some t.id := by
  cases o with
  | none => simp [stopTimer]
  | some id =>
    change t ∈ s.timers.filter (fun t => t.id ≠ id) ↔ _
    rw [List.mem_filter, decide_eq_true_iff]
    exact and_congr_right fun _ =>
      ⟨fun hne e => hne (Option.some.inj e).symm, fun hne e => hne (e ▸ rfl)⟩

theorem stopTimer_sublist : (s.stopTimer o).timers.Sublist s.timers := by
  cases o with
  | none => exact List.Sublist.refl _
  | some id => exact List.filter_sublist

end Stop

theorem close_keeps {P : Session → Prop} (hstop : ∀ s o, P s → P (stopTimer s o)) (h : P s) :
    P s.close := by
  unfold close
  generalize s.documents.values = ds
  induction ds generalizing s with
  | nil => exact h
  | cons d ds ih => exact ih (hstop s d.timer h)

theorem mem_close_iff (s : Session) (t : Timer) : t ∈ s.close.timers ↔
    t ∈ s.timers ∧ ∀ u d, s.documents.get? u = some d → d.timer ≠ some t.id := by
  have hfold : ∀ (ds : List OpenDocument) (s : Session),
      t ∈ (ds.foldl (fun s d => s.stopTimer d.timer) s).timers ↔
        t ∈ s.timers ∧ ∀ d ∈ ds, d.timer ≠ some t.id := by
    intro ds
    induction ds with
    | nil => simp
    | cons d ds ih =>
      intro s
      rw [List.foldl_cons, ih, mem_stopTimer_iff, List.forall_mem_cons, and_assoc]
  rw [close, hfold]
  simp only [Table.mem_values_iff, forall_exists_index]
  exact and_congr_right fun _ => forall_comm

theorem not_ticking_stopTimer (s : Session) (d : OpenDocument) :
    ¬ (s.stopTimer d.timer).Ticking d := by
  rintro ⟨t, ht, hd⟩
  exact ((mem_stopTimer_iff s _ t).1 ht).2 hd

namespace Timed

theorem of_eq {s' : Session} (h : s.Timed) (hdocuments : s'.documents = s.documents)
    (htimers : s'.timers = s.timers) (heditors : s'.editors = s.editors)
    (hnext : s'.nextTimer = s.nextTimer) : s'.Timed := by
  obtain ⟨documents, timers, clock, editors, nextTimer, quiet, shuttingDown⟩ := s'
  subst hdocuments htimers heditors hnext
  exact ⟨h.timer_lt, h.timer_inj, h.owned, h.nodup, h.editor_le, h.editor_inj⟩

theorem stopTimer (h : s.Timed) (o : Option Nat) : (s.stopTimer o).Timed where
  timer_lt u d id hd := by
    rw [stopTimer_documents] at hd
    rw [stopTimer_nextTimer]
    exact h.timer_lt u d id hd
  timer_inj := by
    rw [stopTimer_documents]
    exact h.timer_inj
  owned t ht := by
    rw [stopTimer_documents]
    exact h.owned t ((mem_stopTimer_iff s o t).1 ht).1
  nodup := h.nodup.sublist ((stopTimer_sublist s o).map _)
  editor_le u d hd := by
    rw [stopTimer_documents] at hd
    rw [stopTimer_editors]
    exact h.editor_le u d hd
  editor_inj := by
    rw [stopTimer_documents]
    exact h.editor_inj

theorem put (h : s.Timed) (hrest : ∀ d, s.documents.get? u = some d → ¬ s.Ticking d)
    {new : OpenDocument} {n : Nat} (htimer : new.timer = none) (hn : s.editors ≤ n)
    (hnew : new.editor.number ≤ n)
    (hinj : ∀ u' d', s.documents.get? u' = some d' → d'.editor = new.editor → u' = u) :
    { s with documents := s.documents.insert u new, editors := n }.Timed where
  timer_lt u' d' id hd' hid := by
    simp only [Table.get?_insert] at hd'
    split_ifs at hd'
    · cases hd'
      rw [htimer] at hid
      cases hid
    · exact h.timer_lt u' d' id hd' hid
  timer_inj := by
    refine h.timer_inj.insert (fun d d' => Exists.imp fun _ => And.symm) fun u' d' _ hshared => ?_
    obtain ⟨id, _, hid⟩ := hshared
    rw [htimer] at hid
    cases hid
  owned t ht := by
    obtain ⟨u', d', hd', htid, hevent⟩ := h.owned t ht
    refine ⟨u', d', ?_, htid, hevent⟩
    simp only [Table.get?_insert]
    rw [if_neg, hd']
    rintro rfl
    exact hrest d' hd' ⟨t, ht, htid⟩
  nodup := h.nodup
  editor_le u' d' hd' := by
    simp only [Table.get?_insert] at hd'
    split_ifs at hd'
    · cases hd'
      exact hnew
    · exact Nat.le_trans (h.editor_le u' d' hd') hn
  editor_inj := h.editor_inj.insert (fun _ _ => Eq.symm) hinj

theorem putTicking (h : s.Timed) {old : OpenDocument} (hold : s.documents.get? u = some old)
    (hrest : ¬ s.Ticking old) (text : String) :
    let new : OpenDocument := ⟨old.editor, old.tag, text, some s.nextTimer⟩
    { s.setTimer (.settled old.editor (new.snapshot u)) with
      documents := s.documents.insert u new }.Timed where
  timer_lt u' d' id hd' hid := by
    simp only [Table.get?_insert] at hd'
    simp only [setTimer]
    split_ifs at hd'
    · cases hd'
      cases hid
      exact Nat.lt_succ_self _
    · exact Nat.lt_succ_of_lt (h.timer_lt u' d' id hd' hid)
  timer_inj := by
    refine h.timer_inj.insert (fun d d' => Exists.imp fun _ => And.symm) fun u' d' hd' hshared => ?_
    obtain ⟨id, hid, hnew⟩ := hshared
    cases hnew
    exact absurd (h.timer_lt u' d' _ hd' hid) (Nat.lt_irrefl _)
  owned t ht := by
    simp only [setTimer, Table.get?_insert] at ht ⊢
    rcases List.mem_append.1 ht with hmem | hmem
    · obtain ⟨u', d', hd', htid, hevent⟩ := h.owned t hmem
      refine ⟨u', d', ?_, htid, hevent⟩
      rw [if_neg, hd']
      rintro rfl
      rw [hold] at hd'
      cases hd'
      exact hrest ⟨t, hmem, htid⟩
    · rw [List.mem_singleton.1 hmem]
      exact ⟨u, _, if_pos rfl, rfl, rfl⟩
  nodup := by
    simp only [setTimer, List.map_append, List.map_cons, List.map_nil]
    refine List.nodup_append.2 ⟨h.nodup, List.nodup_singleton _, ?_⟩
    rintro id hid id' hid' rfl
    obtain ⟨t, ht, rfl⟩ := List.mem_map.1 hid
    obtain ⟨u', d', hd', htid, _⟩ := h.owned t ht
    exact absurd (List.mem_singleton.1 hid') (Nat.ne_of_lt (h.timer_lt u' d' _ hd' htid))
  editor_le u' d' hd' := by
    simp only [Table.get?_insert] at hd'
    split_ifs at hd'
    · cases hd'
      exact h.editor_le u old hold
    · exact h.editor_le u' d' hd'
  editor_inj := h.editor_inj.insert (fun _ _ => Eq.symm) fun u' d' hd' he =>
    h.editor_inj u' u d' old hd' hold he

theorem erase (h : s.Timed) (hrest : ∀ d, s.documents.get? u = some d → ¬ s.Ticking d) :
    { s with documents := s.documents.erase u }.Timed where
  timer_lt u' d' id hd' := by
    simp only [Table.get?_erase] at hd'
    split_ifs at hd'
    exact h.timer_lt u' d' id hd'
  timer_inj := h.timer_inj.erase u
  owned t ht := by
    obtain ⟨u', d', hd', htid, hevent⟩ := h.owned t ht
    refine ⟨u', d', ?_, htid, hevent⟩
    simp only [Table.get?_erase]
    rw [if_neg, hd']
    rintro rfl
    exact hrest d' hd' ⟨t, ht, htid⟩
  nodup := h.nodup
  editor_le u' d' hd' := by
    simp only [Table.get?_erase] at hd'
    split_ifs at hd'
    exact h.editor_le u' d' hd'
  editor_inj := h.editor_inj.erase u


theorem ticking_of_stopTimer (h : s.Timed) {old : OpenDocument} {u' : Uri}
    (hold : s.documents.get? u = some old) (hd : s.documents.get? u' = some d) (hne : u' ≠ u)
    (hticking : s.Ticking d) : (s.stopTimer old.timer).Ticking d := by
  obtain ⟨t, ht, hid⟩ := hticking
  refine ⟨t, (mem_stopTimer_iff s _ t).2 ⟨ht, fun hid' => hne ?_⟩, hid⟩
  exact h.timer_inj u' u d old hd hold ⟨t.id, hid, hid'⟩

/-! ## Whatever happens -/

theorem rests_after_stop {old : OpenDocument} (hold : s.documents.get? u = some old) :
    ∀ d, (s.stopTimer old.timer).documents.get? u = some d →
      ¬ (s.stopTimer old.timer).Ticking d := by
  intro d hd
  rw [stopTimer_documents, hold] at hd
  cases hd
  exact not_ticking_stopTimer s old

theorem openDocument (h : s.Timed) (d : Document) : (s.openDocument d).1.Timed := by
  unfold Session.openDocument
  split
  · rename_i old hold
    refine (h.stopTimer old.timer).put (rests_after_stop hold) rfl (Nat.le_refl _) ?_ ?_
    · rw [stopTimer_editors]
      exact h.editor_le d.uri old hold
    · intro u' d' hd' he
      rw [stopTimer_documents] at hd'
      exact h.editor_inj u' d.uri d' old hd' hold he
  · rename_i hnone
    refine h.put (fun d' hd' => ?_) rfl (Nat.le_succ _) (Nat.le_refl _) fun u' d' hd' he => ?_
    · rw [hnone] at hd'
      cases hd'
    · have hle := h.editor_le u' d' hd'
      rw [he] at hle
      exact absurd hle (Nat.not_succ_le_self _)

theorem changeDocument (h : s.Timed) (u : Uri) (texts : List String) :
    (s.changeDocument u texts).1.Timed := by
  unfold Session.changeDocument
  split
  · rename_i old text hold _
    refine (h.stopTimer old.timer).putTicking ?_ (not_ticking_stopTimer s old) text
    rw [stopTimer_documents]
    exact hold
  · exact h

theorem closeDocument (h : s.Timed) (u : Uri) : (s.closeDocument u).1.Timed := by
  unfold Session.closeDocument
  split
  · rename_i old hold
    exact (h.stopTimer old.timer).erase (rests_after_stop hold)
  · exact h

end Timed

/-! ## Timers that fire -/

theorem mem_of_sooner {ts : List Timer} {t : Timer} (h : ts.foldr sooner none = some t) :
    t ∈ ts := by
  induction ts with
  | nil => cases h
  | cons t₀ ts ih =>
    rw [List.foldr_cons] at h
    cases hr : ts.foldr sooner none with
    | none =>
      rw [hr] at h
      cases h
      exact List.mem_cons_self
    | some t₁ =>
      simp only [hr, sooner] at h
      split_ifs at h
      · cases h
        exact List.mem_cons_of_mem _ (ih hr)
      · cases h
        exact List.mem_cons_self

/-- **A timer that fires** is the one of an open document, which has come to rest as it is now. -/
theorem Timed.fire (h : s.Timed) {s' : Session} {e : EditorEvent} (hfire : s.fire? = some (s', e)) :
    ∃ u d, s.documents.get? u = some d ∧ s' = s.stopTimer d.timer ∧
      e = .settled d.editor (d.snapshot u) := by
  simp only [fire?, due?, Option.map_eq_some_iff, Option.filter_eq_some_iff, Prod.mk.injEq] at hfire
  obtain ⟨t, ⟨hnext, _⟩, rfl, rfl⟩ := hfire
  obtain ⟨u, d, hd, hid, hevent⟩ := h.owned t (mem_of_sooner hnext)
  exact ⟨u, d, hd, by rw [hid], hevent⟩

end LintServer.Session
