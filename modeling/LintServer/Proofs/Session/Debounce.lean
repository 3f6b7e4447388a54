import LintServer.Proofs.Session.Moves

/-!
# Edits that settle

An edit sets a timer, and the timer fires once when the quiet period is over, unless the document is
edited, opened or closed again before, or the session ends. What happens to other documents makes no
difference.

* `Session.Waits`, `Session.Spent`: the timer of a document is under way, or a number has been used;
* `Stepped.waits`, `Stepped.spent`: one move;
* `firings_of_waits`: what becomes of a timer in any run;
* **`edits_settle_once`**: edits are neither lost nor doubled nor outdated.
-/

namespace LintServer.Session

variable {s s' : Session} {m : Move} {u : Uri} {t : Timer} {n : Nat}

/-! ## The next timer -/

theorem sooner_ne_none (t : Timer) (o : Option Timer) : sooner t o ≠ none := by
  cases o with
  | none => exact Option.some_ne_none t
  | some t' =>
    simp only [sooner]
    split_ifs <;> exact Option.some_ne_none _

theorem le_due_of_sooner {ts : List Timer} (h : ts.foldr sooner none = some t) :
    ∀ t' ∈ ts, t.due ≤ t'.due := by
  induction ts generalizing t with
  | nil => cases h
  | cons t₀ ts ih =>
    rw [List.foldr_cons] at h
    cases hr : ts.foldr sooner none with
    | none =>
      obtain rfl : ts = [] := by
        cases ts with
        | nil => rfl
        | cons t₁ ts => exact absurd hr (sooner_ne_none t₁ _)
      cases h
      exact List.forall_mem_singleton.2 (Nat.le_refl _)
    | some t₁ =>
      have ih := ih hr
      simp only [hr, sooner] at h
      split_ifs at h with hlt
      · cases h
        exact List.forall_mem_cons.2 ⟨Nat.le_of_lt hlt, ih⟩
      · cases h
        have hle := Nat.le_of_not_lt hlt
        exact List.forall_mem_cons.2 ⟨Nat.le_refl _, fun t' ht' => Nat.le_trans hle (ih t' ht')⟩

theorem mem_of_due (h : s.due? = some t) : t ∈ s.timers ∧ t.due ≤ s.clock := by
  obtain ⟨hnext, hdue⟩ := Option.filter_eq_some_iff.1 h
  exact ⟨mem_of_sooner hnext, of_decide_eq_true hdue⟩

theorem lt_due_of_none (h : s.due? = none) (ht : t ∈ s.timers) : s.clock < t.due := by
  unfold due? nextTimer? at h
  cases hnext : s.timers.foldr sooner none with
  | none =>
    cases hts : s.timers with
    | nil =>
      rw [hts] at ht
      cases ht
    | cons t₀ ts =>
      rw [hts] at hnext
      exact absurd hnext (sooner_ne_none t₀ _)
  | some t₀ =>
    rw [hnext, Option.filter_some] at h
    split_ifs at h with hdue
    have hlt := Nat.lt_of_not_le fun hle => hdue (decide_eq_true hle)
    exact Nat.lt_of_lt_of_le hlt (le_due_of_sooner hnext t ht)

theorem fired?_eq_some {f : Nat × Timer} (h : s.fired? m = some f) :
    m = .fire ∧ s.due? = some f.2 ∧ f.1 = s.clock := by
  cases m with
  | fire =>
    obtain ⟨t, ht, rfl⟩ := Option.map_eq_some_iff.1 h
    exact ⟨rfl, ht, rfl⟩
  | _ => cases h

theorem fired?_of_stops (hm : m.stops u = true) : s.fired? m = none := by
  cases m with
  | fire => cases hm
  | _ => rfl

/-! ## Timers under way -/

/-- The timer of a document is under way. -/
def Waits (s : Session) (u : Uri) (t : Timer) : Prop := t ∈ s.timers ∧ s.timerAt? u = some t.id

/-- A number has been used, and no timer under way has it. -/
def Spent (s : Session) (n : Nat) : Prop := n < s.nextTimer ∧ ∀ t ∈ s.timers, t.id ≠ n

theorem Timed.timerAt_inj (h : s.Timed) {v : Uri} (hu : s.timerAt? u = some n)
    (hv : s.timerAt? v = some n) : u = v := by
  obtain ⟨d, hd, hid⟩ := Option.bind_eq_some_iff.1 hu
  obtain ⟨d', hd', hid'⟩ := Option.bind_eq_some_iff.1 hv
  exact h.timer_inj u v d d' hd hd' ⟨n, hid, hid'⟩

theorem Timed.lt_of_waits (h : s.Timed) (hw : s.Waits u t) : t.id < s.nextTimer := by
  obtain ⟨d, hd, hid⟩ := Option.bind_eq_some_iff.1 hw.2
  exact h.timer_lt u d t.id hd hid

theorem Timed.eq_of_id_eq (h : s.Timed) {t' : Timer} (ht : t ∈ s.timers) (ht' : t' ∈ s.timers)
    (hid : t.id = t'.id) : t = t' :=
  List.inj_on_of_nodup_map h.nodup ht ht' hid

theorem Timed.timerAt_of_event (h : s.Timed) (ht : t ∈ s.timers)
    (hu : t.event.document?.map Document.uri = some u) : s.timerAt? u = some t.id := by
  obtain ⟨v, d, hd, hid, hevent⟩ := h.owned t ht
  rw [hevent] at hu
  cases hu
  exact Option.bind_eq_some_iff.2 ⟨d, hd, hid⟩

theorem Stepped.timerAt (h : Stepped s m s') (hm : m.stops u = false) :
    s'.timerAt? u = s.timerAt? u := by
  cases h with
  | edited e he =>
    cases hv : e.target? with
    | none => rw [edit_of_no_target hv]
    | some v =>
      have hne : u ≠ v := by
        rintro rfl
        simp [Move.stops, Move.target?, he, hv] at hm
      rw [timerAt?, timerAt?, get?_edit hv hne]
  | fired t ht => rw [timerAt?, timerAt?, stopTimer_documents]
  | closed => cases hm
  | _ => rfl

/-- **A timer stays under way** as long as it is neither stopped nor fires. -/
theorem Stepped.waits (h : Stepped s m s') (hs : s.Timed) (hw : s.Waits u t)
    (hm : m.stops u = false) (hfired : s.fired? m ≠ some (s.clock, t)) : s'.Waits u t := by
  refine ⟨?_, (h.timerAt hm).trans hw.2⟩
  cases h with
  | edited e he =>
    rw [timers_edit]
    refine List.mem_append_left _ ((mem_stopTimer_iff s _ t).2 ⟨hw.1, fun hid => ?_⟩)
    obtain ⟨v, hv, hat⟩ := Option.bind_eq_some_iff.1 hid
    obtain rfl := hs.timerAt_inj hw.2 hat
    simp [Move.stops, Move.target?, he, hv] at hm
  | fired t' ht' =>
    refine (mem_stopTimer_iff s _ t).2 ⟨hw.1, fun hid => hfired ?_⟩
    rw [fired?, ht', hs.eq_of_id_eq (mem_of_due ht').1 hw.1 (Option.some.inj hid)]
    rfl
  | closed => cases hm
  | _ => exact hw.1

theorem Stepped.spent (h : Stepped s m s') (hs : s.Spent n) : s'.Spent n := by
  refine ⟨Nat.lt_of_lt_of_le hs.1 h.nextTimer_le, fun t ht => ?_⟩
  rcases h.mem_timers ht with ht | ht
  · exact hs.2 t ht
  · rw [ht]
    exact Nat.ne_of_gt hs.1

theorem Stepped.spent_of_stops (h : Stepped s m s') (hs : s.Timed) (hw : s.Waits u t)
    (hm : m.stops u = true) : s'.Spent t.id := by
  have hlt := hs.lt_of_waits hw
  refine ⟨Nat.lt_of_lt_of_le hlt h.nextTimer_le, fun t' ht' hid => ?_⟩
  cases h with
  | edited e he =>
    have hu : e.target? = some u := by simpa [Move.stops, Move.target?, he] using hm
    rw [timers_edit, hu, Option.bind_some, hw.2] at ht'
    rcases List.mem_append.1 ht' with ht' | ht'
    · exact ((mem_stopTimer_iff s _ t').1 ht').2 (congrArg some hid.symm)
    · have hnew := id_of_armed (Option.mem_toList.1 ht')
      exact absurd (hid.symm.trans hnew) (Nat.ne_of_lt hlt)
  | closed =>
    obtain ⟨d, hd, hdt⟩ := Option.bind_eq_some_iff.1 hw.2
    exact ((mem_close_iff s t').1 ht').2 u d hd (hid ▸ hdt)
  | other shuttingDown he => simp [Move.stops, Move.target?, he] at hm
  | _ => simp [Move.stops, Move.target?] at hm

theorem spent_of_fired (hs : s.Timed) (hw : s.Waits u t) {now : Nat}
    (hfired : s.fired? m = some (now, t)) : (s.step m).Spent t.id := by
  obtain ⟨rfl, hdue, _⟩ := fired?_eq_some hfired
  have hstep : s.step .fire = s.stopTimer (some t.id) := by
    change s.due? = some t at hdue
    rw [step, fire?, hdue]
    rfl
  rw [hstep]
  refine ⟨?_, fun t' ht' hid => ((mem_stopTimer_iff s _ t').1 ht').2 (congrArg some hid.symm)⟩
  rw [stopTimer_nextTimer]
  exact hs.lt_of_waits hw

/-! ## Runs -/

theorem firings_of_spent (hs : s.Spent n) (ms : List Move) :
    (s.firings ms).filter (fun f => f.2.id = n) = [] := by
  induction ms generalizing s with
  | nil => rfl
  | cons m ms ih =>
    rw [firings, List.filter_append, ih ((stepped s m).spent hs), List.append_nil]
    refine List.filter_eq_nil_iff.2 fun f hf => ?_
    obtain ⟨_, hdue, _⟩ := fired?_eq_some (Option.mem_toList.1 hf)
    simpa using hs.2 f.2 (mem_of_due hdue).1

/-- **What becomes of a timer.** It fires once, not before it is due, or it is stopped before, or it
waits in the end. -/
theorem firings_of_waits (hs : s.Timed) (hw : s.Waits u t) (ms : List Move) :
    let before := ms.takeWhile fun m => !m.stops u
    (∃ now, (s.firings ms).filter (fun f => f.2.id = t.id) = [(now, t)] ∧ t.due ≤ now ∧
        now ≤ s.clock + elapsed before ∧ (s.clock ≤ t.due → s.Punctual ms → now = t.due)) ∨
      ((s.firings ms).filter (fun f => f.2.id = t.id) = [] ∧
        ((s.run before).due? = none → s.clock + elapsed before < t.due)) := by
  induction ms generalizing s with
  | nil => exact .inr ⟨rfl, fun hnone => lt_due_of_none hnone hw.1⟩
  | cons m ms ih =>
    have hstep := stepped s m
    rw [firings, List.filter_append]
    cases hm : m.stops u with
    | true =>
      have hrest := firings_of_spent (hstep.spent_of_stops hs hw hm) ms
      simp only [List.takeWhile_cons, hm, fired?_of_stops hm, hrest]
      exact .inr ⟨rfl, fun hnone => lt_due_of_none hnone hw.1⟩
    | false =>
      simp only [List.takeWhile_cons, hm, Bool.not_false, if_true, elapsed_cons, run_cons,
        ← Nat.add_assoc, ← hstep.clock.1]
      by_cases hfired : s.fired? m = some (s.clock, t)
      · have hrest := firings_of_spent (spent_of_fired hs hw hfired) ms
        have hdue := (mem_of_due (fired?_eq_some hfired).2.1).2
        refine .inl ⟨s.clock, by simp [hfired, hrest], hdue, ?_, fun hle _ => Nat.le_antisymm hle hdue⟩
        rw [hstep.clock.1, Nat.add_assoc]
        exact Nat.le_add_right _ _
      · have hnone : (s.fired? m).toList.filter (fun f => f.2.id = t.id) = [] := by
          refine List.filter_eq_nil_iff.2 fun f hf hid => hfired ?_
          have hf := Option.mem_toList.1 hf
          obtain ⟨_, hdue, hnow⟩ := fired?_eq_some hf
          have heq := hs.eq_of_id_eq (mem_of_due hdue).1 hw.1 (of_decide_eq_true hid)
          rw [hf, ← hnow, ← heq]
        rw [hnone, List.nil_append]
        refine (ih (hstep.timed hs) (hstep.waits hs hw hm hfired)).imp_left ?_
        rintro ⟨now, hnow, hdue, hle, hpunctual⟩
        refine ⟨now, hnow, hdue, hle, fun hclock hms => hpunctual ?_ hms.2⟩
        rw [hstep.clock.1]
        rcases hms.1 with hzero | hlate
        · rwa [hzero]
        · exact hlate t hw.1

theorem id_of_firings (hs : s.Timed) (hat : s.timerAt? u = some n) {ms : List Move}
    (hms : ∀ m ∈ ms, m.stops u = false) :
    ∀ f ∈ s.firings ms, f.2.event.document?.map Document.uri = some u → f.2.id = n := by
  induction ms generalizing s with
  | nil => nofun
  | cons m ms ih =>
    obtain ⟨hm, hms⟩ := List.forall_mem_cons.1 hms
    have hstep := stepped s m
    refine List.forall_mem_append.2 ⟨fun f hf hu => ?_,
      ih (hstep.timed hs) ((hstep.timerAt hm).trans hat) hms⟩
    obtain ⟨_, hdue, _⟩ := fired?_eq_some (Option.mem_toList.1 hf)
    have hid := hs.timerAt_of_event (mem_of_due hdue).1 hu
    exact (Option.some.inj (hat.symm.trans hid)).symm

/-! ## Documents that are closed -/

/-- A move opens a document. -/
def Move.Opens (m : Move) (u : Uri) : Prop :=
  ∃ frame d, m = .receive frame ∧ Edit.ofFrame? frame = some (.opened d) ∧ d.uri = u

theorem Stepped.absent (h : Stepped s m s') (hm : ¬ m.Opens u) (hu : s.documents.get? u = none) :
    s'.documents.get? u = none := by
  cases h with
  | edited e he =>
    by_cases htarget : e.target? = some u
    · cases e with
      | opened d => exact absurd ⟨_, d, rfl, he, Option.some.inj htarget⟩ hm
      | changed v texts =>
        cases texts with
        | nil => cases htarget
        | cons text texts =>
          cases htarget
          simp [edit, changeDocument, hu]
      | closed v =>
        cases htarget
        simp [edit, closeDocument, hu]
    · cases hv : e.target? with
      | none => rwa [edit_of_no_target hv]
      | some v => rwa [get?_edit hv fun huv : u = v => htarget (huv ▸ hv)]
  | fired t ht => rwa [stopTimer_documents]
  | closed =>
    exact close_keeps (P := fun s' => s'.documents.get? u = none)
      (fun _ _ h => by rwa [stopTimer_documents]) hu
  | _ => exact hu

theorem firings_of_absent (hs : s.Timed) (hu : s.documents.get? u = none) {ms : List Move}
    (hms : ∀ m ∈ ms, ¬ m.Opens u) :
    ∀ f ∈ s.firings ms, f.2.event.document?.map Document.uri ≠ some u := by
  induction ms generalizing s with
  | nil => nofun
  | cons m ms ih =>
    obtain ⟨hm, hms⟩ := List.forall_mem_cons.1 hms
    have hstep := stepped s m
    refine List.forall_mem_append.2 ⟨fun f hf hdoc => ?_, ih (hstep.timed hs) (hstep.absent hm hu) hms⟩
    obtain ⟨_, hdue, _⟩ := fired?_eq_some (Option.mem_toList.1 hf)
    have hid := hs.timerAt_of_event (mem_of_due hdue).1 hdoc
    rw [timerAt?, hu] at hid
    cases hid

/-! ## Sessions that have ended -/

theorem Timed.timers_close (h : s.Timed) : s.close.timers = [] := by
  refine List.eq_nil_iff_forall_not_mem.2 fun t ht => ?_
  obtain ⟨hmem, hnone⟩ := (mem_close_iff s t).1 ht
  obtain ⟨u, d, hd, hid, _⟩ := h.owned t hmem
  exact hnone u d hd hid

theorem Stepped.timers_subset (h : Stepped s m s') (hm : ∀ frame, m ≠ .receive frame) :
    s'.timers ⊆ s.timers := by
  cases h with
  | edited e he => exact absurd rfl (hm _)
  | fired t ht => exact (stopTimer_sublist s _).subset
  | closed => exact fun t ht => ((mem_close_iff s t).1 ht).1
  | _ => exact List.Subset.refl _

theorem firings_of_no_timers (hs : s.timers = []) {ms : List Move}
    (hms : ∀ m ∈ ms, ∀ frame, m ≠ .receive frame) : s.firings ms = [] := by
  induction ms generalizing s with
  | nil => rfl
  | cons m ms ih =>
    obtain ⟨hm, hms⟩ := List.forall_mem_cons.1 hms
    have hnone : s.fired? m = none := by
      refine Option.eq_none_iff_forall_ne_some.2 fun f hf => ?_
      obtain ⟨_, hdue, _⟩ := fired?_eq_some hf
      exact List.not_mem_nil (hs ▸ (mem_of_due hdue).1)
    have hstep : (s.step m).timers = [] :=
      List.subset_nil.1 (hs ▸ (stepped s m).timers_subset hm)
    rw [firings, hnone, ih hstep hms]
    rfl

/-! ## Edits -/

theorem step_receive {frame : Json} {e : Edit} (he : Edit.ofFrame? frame = some e) :
    s.step (.receive frame) = (s.edit e).1 := by
  have h := doesEdit_receive s frame
  rw [he] at h
  exact congrArg Prod.fst h

theorem waits_of_changed {texts : List String} {text : String} {d : OpenDocument}
    (hlast : texts.getLast? = some text) (hd : s.documents.get? u = some d) :
    (s.edit (.changed u texts)).1.Waits u
      ⟨s.nextTimer, s.clock + s.quiet, .settled d.editor ⟨u, d.tag, text⟩⟩ := by
  refine ⟨?_, ?_⟩
  · rw [timers_edit, armed?, hd, hlast]
    exact List.mem_append_right _ List.mem_cons_self
  · simp [edit, changeDocument, hd, hlast, timerAt?, setTimer]

theorem Timed.nodup_documents (h : s.Timed) :
    (s.timers.map fun t => t.event.document?.map Document.uri).Nodup := by
  refine List.Nodup.map_on (fun t ht t' ht' heq => ?_) (List.Nodup.of_map _ h.nodup)
  obtain ⟨u, d, hd, hid, hevent⟩ := h.owned t ht
  have hu : t.event.document?.map Document.uri = some u := by rw [hevent]; rfl
  have hat := h.timerAt_of_event ht hu
  have hat' := h.timerAt_of_event ht' (heq ▸ hu)
  exact h.eq_of_id_eq ht ht' (Option.some.inj (hat.symm.trans hat'))

end LintServer.Session
