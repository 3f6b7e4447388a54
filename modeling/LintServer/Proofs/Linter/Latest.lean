import LintServer.Proofs.Linter.Life

/-!
# The last attempt at a document

Runs on one document may overlap and end in any order. If every attempt takes its ticket before the
next one is asked for, then the tickets are in the order of the attempts, and the last attempt has
the last word: as long as it runs nothing can make it stale, and when it has come to its end the
runs that are left are too old to be applied.

* `lastAsked`, `LastAsked`, `LastStarted`: the last attempt at a document, and its last run;
* `Standing`, `Latest`: how far the last attempt has come, and what that means for the others;
* `Latest.of_asked`, **`Latest.change`**: from its beginning on, whatever happens to the others;
* `Latest.started`, `Latest.applied`, `Latest.ended`: what follows.
-/

namespace LintServer

/-- The last attempts after a mark. -/
def Mark.onto (m : Mark) (k : Uri → Option (Nat × Document)) : Uri → Option (Nat × Document) :=
  match m with
  | asked id d => fun u => if u = d.uri then some (id, d) else k u
  | removed v => fun u => if u = v then none else k u
  | _ => k

/-- The last attempt at each document with what it has been asked for, unless the document has been
removed since. -/
def lastAsked (h : List Mark) : Uri → Option (Nat × Document) :=
  h.foldl (fun k m => m.onto k) fun _ => none

/-- No later attempt has been asked for at the same document. -/
def LastAsked (h : List Mark) (id : Nat) (d : Document) : Prop :=
  ∃ before after, h = before ++ .asked id d :: after ∧
    ∀ id' d', .asked id' d' ∈ after → d'.uri ≠ d.uri

/-- No later run has started on the same document. -/
def LastStarted (h : List Mark) (id : Nat) (t : Ticket) (text : String) : Prop :=
  ∃ before after, h = before ++ .started id t text :: after ∧
    ∀ t' ∈ startedIn after, t'.uri ≠ t.uri

theorem lastAsked_spec {h : List Mark} {u : Uri} {id : Nat} {d : Document}
    (hlast : lastAsked h u = some (id, d)) : d.uri = u ∧ LastAsked h id d := by
  induction h using List.reverseRecOn with
  | nil => cases hlast
  | append_singleton h m ih =>
    rw [lastAsked, List.foldl_append] at hlast
    change m.onto (lastAsked h) u = _ at hlast
    have hkeep : lastAsked h u = some (id, d) →
        (∀ id' d', m = .asked id' d' → d'.uri ≠ u) → d.uri = u ∧ LastAsked (h ++ [m]) id d := by
      intro hold hm
      obtain ⟨rfl, before, after, rfl, hafter⟩ := ih hold
      refine ⟨rfl, before, after ++ [m], by rw [List.append_assoc, List.cons_append], ?_⟩
      intro id' d' hmem
      rcases List.mem_append.1 hmem with hmem | hmem
      · exact hafter id' d' hmem
      · exact hm id' d' (List.mem_singleton.1 hmem).symm
    cases m with
    | asked id' d' =>
      simp only [Mark.onto] at hlast
      split_ifs at hlast with hu
      · cases hlast
        exact ⟨hu.symm, h, [], rfl, fun _ _ hmem => absurd hmem List.not_mem_nil⟩
      · exact hkeep hlast fun id'' d'' hm => by cases hm; exact Ne.symm hu
    | removed v =>
      simp only [Mark.onto] at hlast
      split_ifs at hlast
      exact hkeep hlast fun id' d' hm => by cases hm
    | _ => exact hkeep hlast fun id' d' hm => by cases hm

namespace Linter

variable {l l' : Linter} {h : List Mark} {m : Option Mark} {ns : List Notice} {u : Uri} {id : Nat}
  {text : String} {t : Ticket}

/-- The marks speak of attempts and tickets that there have been. -/
structure Traced (l : Linter) (h : List Mark) : Prop where
  id_lt : ∀ k ∈ h, ∀ id, k.id? = some id → id < l.next
  number_le : ∀ t ∈ startedIn h, t.number ≤ l.publisher.issued
  /-- Runs start in the order of their tickets. -/
  sorted : (startedIn h).Pairwise fun t t' => t.number < t'.number

theorem traced_nil (l : Linter) : Traced l [] where
  id_lt _ hk := absurd hk List.not_mem_nil
  number_le _ ht := absurd ht List.not_mem_nil
  sorted := List.Pairwise.nil

theorem Traced.change (htr : Traced l h) (hl : l.Orderly) (hc : Change l l' m ns) :
    Traced l' (h ++ m.toList) where
  id_lt k hk id hid := by
    rcases List.mem_append.1 hk with hk | hk
    · exact Nat.lt_of_lt_of_le (htr.id_lt k hk id hid) (next_le hc)
    · rw [Option.mem_toList] at hk
      subst hk
      cases k with
      | asked id' d =>
        cases hid
        obtain ⟨rfl, hnext⟩ := next_of_asked hc
        omega
      | started id' t x =>
        cases hid
        exact Nat.lt_of_lt_of_le (hl.id_lt id _ hc.started_ticket.1) (next_le hc)
      | ended id' t o =>
        cases hid
        obtain ⟨v, x, hget, _⟩ := hc.ended_attempt
        exact Nat.lt_of_lt_of_le (hl.id_lt id _ hget) (next_le hc)
      | replaced v findings => cases hid
      | removed v => cases hid
  number_le t ht := by
    rcases mem_startedIn_append.1 ht with ht | ⟨id, x, rfl⟩
    · exact (htr.number_le t ht).trans (issued_le_change hc)
    · obtain ⟨_, heq, hp⟩ := hc.started_ticket
      rw [hp, heq]
      exact Nat.le_refl _
  sorted := by
    rw [startedIn_append]
    refine List.pairwise_append.2 ⟨htr.sorted, ?_, fun t ht t' ht' => ?_⟩
    · cases m with
      | none => exact List.Pairwise.nil
      | some k =>
        cases k with
        | started id t x => exact List.pairwise_singleton _ _
        | _ => exact List.Pairwise.nil
    · obtain ⟨id, x, rfl⟩ := (mem_startedIn_append (h := []).1 ht').resolve_left List.not_mem_nil
      obtain ⟨_, heq, _⟩ := hc.started_ticket
      rw [heq]
      exact Nat.lt_succ_of_le (htr.number_le t ht)

theorem Traced.last_started (htr : Traced l h) {x : String} (hmem : .started id t x ∈ h)
    (hlast : ∀ t' ∈ startedIn h, t'.uri = t.uri → t'.number ≤ t.number) :
    LastStarted h id t x := by
  obtain ⟨before, after, rfl⟩ := List.append_of_mem hmem
  refine ⟨before, after, rfl, fun t' ht' hu => ?_⟩
  have hsorted := htr.sorted
  rw [startedIn_append] at hsorted hlast
  have hlt : t.number < t'.number :=
    List.rel_of_pairwise_cons (List.pairwise_append.1 hsorted).2.1 ht'
  exact absurd (hlast t' (List.mem_append_right _ (List.mem_cons_of_mem _ ht')) hu)
    (Nat.not_le_of_lt hlt)

/-- How far an attempt at a document has come that is the last one. -/
inductive Standing (l : Linter) (h : List Mark) (u : Uri) (id : Nat) (text : String) : Prop where
  /-- It has no ticket yet. -/
  | pending (stage : Stage) (hget : l.attempts.get? id = some ⟨u, text, stage⟩)
      (hmay : (⟨u, text, stage⟩ : Attempt).MayStart l.settings.tag)
      (hstarted : ∀ t x, .started id t x ∉ h) (hended : ∀ t o, .ended id t o ∉ h)
  /-- It runs, and no older run can make it stale. -/
  | running (t : Ticket) (hget : l.attempts.get? id = some ⟨u, text, .running t⟩)
      (hstarted : ∀ t' x, .started id t' x ∈ h ↔ t' = t ∧ x = text)
      (hended : ∀ t o, .ended id t o ∉ h)
      (hlast : ∀ t' ∈ startedIn h, t'.uri = u → t'.number ≤ t.number)
      (hfresh : l.publisher.isStale t = false)
      (hnewest : ∀ t' ∈ l.tickets, t'.uri = u → t' ≠ t → t'.number < t.number)
  /-- It is over, and if it has come to its end then no older run can be applied any more. -/
  | ended (t : Ticket) (o : Except RunError Run) (hget : l.attempts.get? id = none)
      (huri : t.uri = u)
      (hstarted : ∀ t' x, .started id t' x ∈ h ↔ t' = t ∧ x = text)
      (hended : ∀ t' o', .ended id t' o' ∈ h ↔ t' = t ∧ o' = o)
      (hlast : ∀ t' ∈ startedIn h, t'.uri = u → t'.number ≤ t.number)
      (happlied : ∀ run, o = .ok run →
        l.publisher.issues? u = some (run.findings.map Issue.ofFinding) ∧
        ∀ t' ∈ l.tickets, t'.uri = u → l.publisher.isStale t' = true)

/-- **The last attempt at a document.** No other one will start. -/
structure Latest (l : Linter) (h : List Mark) (u : Uri) (id : Nat) (text : String) : Prop where
  others : ∀ id' a, l.attempts.get? id' = some a → a.uri = u → id' ≠ id →
    ¬ a.MayStart l.settings.tag
  standing : Standing l h u id text

/-! ## The beginning -/

/-- An attempt is the last one when it has been asked for, if no older one will start. -/
theorem Latest.of_asked {d : Document} (htr : Traced l h) (hcalm : l.Calm d.uri)
    (hc : Change l l' (some (.asked id d)) ns) (hsettings : l'.settings = l.settings)
    (htag : d.tag = l.settings.tag) :
    Latest l' (h ++ [.asked id d]) d.uri id d.text := by
  obtain ⟨rfl, _⟩ := next_of_asked hc
  constructor
  · intro id' a hget hu hne
    refine not_mayStart_change hc hsettings hget (fun d' hm => ?_) fun a' hget' hu' =>
      hcalm id' a' hget' (hu'.trans hu)
    cases hm
    exact absurd rfl hne
  · cases hc.fate l.next with
    | same hsame hm => exact absurd rfl hm
    | asked d' stage hstage _ hnew hm =>
      cases hm
      refine .pending stage hnew ?_ (fun t x hk => ?_) fun t o hk => ?_
      · rw [hsettings]
        rcases hstage with rfl | ⟨rfl, _⟩
        · exact htag
        · exact trivial
      · rcases List.mem_append.1 hk with hk | hk
        · exact Nat.lt_irrefl _ (htr.id_lt _ hk _ rfl)
        · cases List.mem_singleton.1 hk
      · rcases List.mem_append.1 hk with hk | hk
        · exact Nat.lt_irrefl _ (htr.id_lt _ hk _ rfl)
        · cases List.mem_singleton.1 hk
    | started v x hold hnew hpublisher hm => cases hm
    | moved v x old new hold hnew hmove hlookup hm => cases hm
    | skipped v x tag hold htag hnew hm => cases hm
    | ended v x t o hold hnew hm => cases hm

/-! ## Afterwards -/

theorem mem_append_of_id {k : Mark} (hm : m.bind Mark.id? ≠ some id) (hk : k.id? = some id) :
    k ∈ h ++ m.toList ↔ k ∈ h := by
  rw [List.mem_append, Option.mem_toList]
  refine or_iff_left fun hmk => hm ?_
  rw [hmk, Option.bind_some, hk]

theorem Latest.id_of_started (hlast : Latest l h u id text) {id' : Nat} {x : String}
    (hc : Change l l' (some (.started id' t x)) ns) (hu : t.uri = u) : id' = id := by
  by_contra hne
  exact hlast.others id' _ hc.started_ticket.1 hu hne trivial

theorem Latest.not_started (hlast : Latest l h u id text) (hc : Change l l' m ns)
    (hm : m.bind Mark.id? ≠ some id) :
    (∀ t ∈ l'.tickets, t.uri = u → t ∈ l.tickets) ∧
      ∀ t ∈ startedIn (h ++ m.toList), t.uri = u → t ∈ startedIn h := by
  have hnot : ∀ id' t x, m = some (.started id' t x) → t.uri ≠ u := by
    rintro id' t x rfl hu
    exact hm (congrArg some (hlast.id_of_started hc hu))
  refine ⟨fun t ht hu => ?_, fun t ht hu => ?_⟩
  · rcases mem_tickets_change hc ht with ht | ⟨id', x, hms, _⟩
    · exact ht
    · exact absurd hu (hnot id' t x hms)
  · rcases mem_startedIn_append.1 ht with ht | ⟨id', x, hms⟩
    · exact ht
    · exact absurd hu (hnot id' t x hms)

theorem isStale_newest_change (hl : l.Orderly) (hc : Change l l' m ns)
    (hreplaced : ∀ findings, m ≠ some (.replaced u findings)) (hremoved : m ≠ some (.removed u))
    (hfresh : l.publisher.isStale t = false)
    (hnewest : ∀ t' ∈ l.tickets, t'.uri = u → t' ≠ t → t'.number < t.number)
    (hget : l.attempts.get? id = some ⟨u, text, .running t⟩)
    (hget' : l'.attempts.get? id = some ⟨u, text, .running t⟩) :
    l'.publisher.isStale t = false := by
  have hu := hl.uri_eq id u text t hget
  refine Bool.eq_false_iff.2 fun hs => ?_
  rcases (isStale_change hl hc (Orderly.mem_tickets hget) (Orderly.mem_tickets hget')).1 hs with
    hs | hm | ⟨findings, hm⟩ | ⟨id', t', run, rfl, _, hu', hlt⟩
  · rw [hfresh] at hs
    cases hs
  · exact hremoved (hu ▸ hm)
  · exact hreplaced findings (hu ▸ hm)
  · obtain ⟨v, x, hgetv, _⟩ := hc.ended_attempt
    have hne : t' ≠ t := fun e => Nat.lt_irrefl _ (e ▸ hlt)
    exact Nat.lt_asymm (hnewest t' (Orderly.mem_tickets hgetv) (hu'.trans hu) hne) hlt

theorem standing_of_pending (hl : l.Orderly) (htr : Traced l h) (hc : Change l l' m ns)
    (hsettings : l'.settings = l.settings) {stage : Stage}
    (hget : l.attempts.get? id = some ⟨u, text, stage⟩)
    (hmay : (⟨u, text, stage⟩ : Attempt).MayStart l.settings.tag)
    (hstarted : ∀ t x, .started id t x ∉ h) (hended : ∀ t o, .ended id t o ∉ h) :
    Standing l' (h ++ m.toList) u id text := by
  rcases pending_change hl hc hget hmay with ⟨hp, rfl, hget'⟩ | ⟨⟨stage', hget', hmay'⟩, hm⟩
  · refine .running (l.publisher.begin u).2 hget' (fun t' x => ?_) (fun t o hk => ?_)
      (fun t' ht' _ => ?_) (isStale_of_started hl hc) fun t' ht' _ hne => ?_
    · rw [List.mem_append, or_iff_right (hstarted t' x), Option.mem_toList]
      simp [eq_comm]
    · rcases List.mem_append.1 hk with hk | hk
      · exact hended t o hk
      · cases Option.mem_toList.1 hk
    · rcases mem_startedIn_append.1 ht' with ht' | ⟨id', x, hm⟩
      · exact Nat.le_succ_of_le (htr.number_le t' ht')
      · cases hm
        exact Nat.le_refl _
    · rcases mem_tickets_change hc ht' with ht' | ⟨id', x, hm, _⟩
      · exact Nat.lt_succ_of_le (hl.balanced.number_le t' ht')
      · cases hm
        exact absurd rfl hne
  · refine .pending stage' hget' (hsettings ▸ hmay') (fun t x => ?_) fun t o => ?_
    · rw [mem_append_of_id hm rfl]
      exact hstarted t x
    · rw [mem_append_of_id hm rfl]
      exact hended t o

theorem standing_of_running (hl : l.Orderly) (hothers : Latest l h u id text)
    (hc : Change l l' m ns) (hreplaced : ∀ findings, m ≠ some (.replaced u findings))
    (hremoved : m ≠ some (.removed u))
    (hget : l.attempts.get? id = some ⟨u, text, .running t⟩)
    (hstarted : ∀ t' x, .started id t' x ∈ h ↔ t' = t ∧ x = text)
    (hended : ∀ t o, .ended id t o ∉ h)
    (hlast : ∀ t' ∈ startedIn h, t'.uri = u → t'.number ≤ t.number)
    (hfresh : l.publisher.isStale t = false)
    (hnewest : ∀ t' ∈ l.tickets, t'.uri = u → t' ≠ t → t'.number < t.number) :
    Standing l' (h ++ m.toList) u id text := by
  rcases running_change hl hc hget with ⟨hget', o, rfl⟩ | ⟨hget', hm⟩
  · have hu := hl.uri_eq id u text t hget
    refine .ended t o hget' hu (fun t' x => ?_) (fun t' o' => ?_) (fun t' ht' => ?_) fun run ho => ?_
    · rw [← hstarted t' x, List.mem_append]
      exact or_iff_left fun hk => by cases Option.mem_toList.1 hk
    · rw [List.mem_append, or_iff_right (hended t' o'), Option.mem_toList]
      simp [eq_comm]
    · rcases mem_startedIn_append.1 ht' with ht' | ⟨id', x, hm⟩
      · exact hlast t' ht'
      · cases hm
    · subst ho
      cases hc with
      | completed id v x t run hgetv hattempts hpublisher hnext =>
        have hmem := Orderly.mem_tickets hget
        refine ⟨?_, fun t' ht' hu' => ?_⟩
        · rw [hpublisher, Publisher.complete_of_fresh hfresh, Publisher.issues?_retire,
            Publisher.issues?_accept, if_pos hu.symm]
        · obtain ⟨hne, hmem'⟩ := (hl.mem_tickets_erase_iff hgetv hattempts).1 ht'
          rw [hpublisher, hl.balanced.isStale_complete hmem hmem' hne, hfresh,
            decide_eq_true ⟨hu'.trans hu.symm, hnewest t' hmem' hu' hne⟩]
          simp
  · obtain ⟨hold, holdStarted⟩ := hothers.not_started hc hm
    refine .running t hget' (fun t' x => ?_) (fun t' o => ?_) (fun t' ht' hu => ?_)
      (isStale_newest_change hl hc hreplaced hremoved hfresh hnewest hget hget')
      fun t' ht' hu => hnewest t' (hold t' ht' hu) hu
    · rw [mem_append_of_id hm rfl]
      exact hstarted t' x
    · rw [mem_append_of_id hm rfl]
      exact hended t' o
    · exact hlast t' (holdStarted t' ht' hu) hu

theorem standing_of_ended (hl : l.Orderly) (htr : Traced l h) (hothers : Latest l h u id text)
    (hc : Change l l' m ns) (hreplaced : ∀ findings, m ≠ some (.replaced u findings))
    (hremoved : m ≠ some (.removed u)) {o : Except RunError Run}
    (hget : l.attempts.get? id = none) (huri : t.uri = u)
    (hstarted : ∀ t' x, .started id t' x ∈ h ↔ t' = t ∧ x = text)
    (hended : ∀ t' o', .ended id t' o' ∈ h ↔ t' = t ∧ o' = o)
    (hlast : ∀ t' ∈ startedIn h, t'.uri = u → t'.number ≤ t.number)
    (happlied : ∀ run, o = .ok run →
      l.publisher.issues? u = some (run.findings.map Issue.ofFinding) ∧
        ∀ t' ∈ l.tickets, t'.uri = u → l.publisher.isStale t' = true) :
    Standing l' (h ++ m.toList) u id text := by
  have hid : id < l.next := htr.id_lt _ ((hstarted t text).2 ⟨rfl, rfl⟩) id rfl
  obtain ⟨hget', hm⟩ := over_change hc hget hid
  obtain ⟨hold, holdStarted⟩ := hothers.not_started hc hm
  refine .ended t o hget' huri (fun t' x => ?_) (fun t' o' => ?_) (fun t' ht' hu => ?_)
    fun run ho => ?_
  · rw [mem_append_of_id hm rfl]
    exact hstarted t' x
  · rw [mem_append_of_id hm rfl]
    exact hended t' o'
  · exact hlast t' (holdStarted t' ht' hu) hu
  · obtain ⟨hissues, hstale⟩ := happlied run ho
    obtain ⟨_, hissues', hstale'⟩ := unapplied_change hl hc hreplaced hremoved
      fun id' t' run' hm' hu' => by
        subst hm'
        obtain ⟨v, x, hgetv, _⟩ := hc.ended_attempt
        exact hstale t' (Orderly.mem_tickets hgetv) hu'
    refine ⟨hissues'.trans hissues, fun t' ht' hu' => ?_⟩
    rw [hstale' t' ht' (hold t' ht' hu') hu']
    exact hstale t' (hold t' ht' hu') hu'

/-- **The last attempt stays the last one** until the document is asked for again, removed or
replaced. -/
theorem Latest.change (hlast : Latest l h u id text) (hl : l.Orderly) (htr : Traced l h)
    (hc : Change l l' m ns) (hsettings : l'.settings = l.settings)
    (hasked : ∀ id d, m = some (.asked id d) → d.uri ≠ u)
    (hreplaced : ∀ findings, m ≠ some (.replaced u findings)) (hremoved : m ≠ some (.removed u)) :
    Latest l' (h ++ m.toList) u id text where
  others id' a hget hu hne := not_mayStart_change hc hsettings hget
    (fun d hm => hu ▸ hasked id' d hm) fun a' hget' hu' => hlast.others id' a' hget' (hu'.trans hu) hne
  standing := by
    cases hlast.standing with
    | pending stage hget hmay hstarted hended =>
      exact standing_of_pending hl htr hc hsettings hget hmay hstarted hended
    | running t hget hstarted hended hnumber hfresh hnewest =>
      exact standing_of_running hl hlast hc hreplaced hremoved hget hstarted hended hnumber hfresh
        hnewest
    | ended t o hget huri hstarted hended hnumber happlied =>
      exact standing_of_ended hl htr hlast hc hreplaced hremoved hget huri hstarted hended hnumber
        happlied

/-! ## What follows -/

/-- The last attempt runs on its own text, and no run on the document has started since. -/
theorem Latest.started (hlast : Latest l h u id text) (hl : l.Orderly) (htr : Traced l h)
    {x : String} (hmem : .started id t x ∈ h) : x = text ∧ t.uri = u ∧ LastStarted h id t x := by
  cases hlast.standing with
  | pending stage hget hmay hstarted hended => exact absurd hmem (hstarted t x)
  | running t₀ hget hstarted hended hnumber hfresh hnewest =>
    obtain ⟨rfl, rfl⟩ := (hstarted t x).1 hmem
    obtain rfl := hl.uri_eq id u _ t hget
    exact ⟨rfl, rfl, htr.last_started hmem hnumber⟩
  | ended t₀ o hget huri hstarted hended hnumber happlied =>
    obtain ⟨rfl, rfl⟩ := (hstarted t x).1 hmem
    subst huri
    exact ⟨rfl, rfl, htr.last_started hmem hnumber⟩

theorem Latest.applied (hlast : Latest l h u id text) {run : Run}
    (hmem : .ended id t (.ok run) ∈ h) :
    l.publisher.issues? u = some (run.findings.map Issue.ofFinding) := by
  cases hlast.standing with
  | pending stage hget hmay hstarted hended => exact absurd hmem (hended t _)
  | running t₀ hget hstarted hended hnumber hfresh hnewest => exact absurd hmem (hended t _)
  | ended t₀ o hget huri hstarted hended hnumber happlied =>
    obtain ⟨_, ho⟩ := (hended t _).1 hmem
    exact (happlied run ho.symm).1

theorem Latest.ended (hlast : Latest l h u id text)
    (hnone : ∀ id a, l.attempts.get? id = some a → a.uri ≠ u) :
    ∃ t o, .started id t text ∈ h ∧ .ended id t o ∈ h := by
  cases hlast.standing with
  | pending stage hget hmay hstarted hended => exact absurd rfl (hnone id _ hget)
  | running t₀ hget hstarted hended hnumber hfresh hnewest => exact absurd rfl (hnone id _ hget)
  | ended t₀ o hget huri hstarted hended hnumber happlied =>
    exact ⟨t₀, o, (hstarted t₀ text).2 ⟨rfl, rfl⟩, (hended t₀ o).2 ⟨rfl, rfl⟩⟩

end Linter

end LintServer
