import LintServer.Proofs.Installation
import LintServer.Proofs.Linter.Operations

/-!
# Linting while the validator is installed

The installation of the validator goes on beside the attempts and touches nothing that they touch.
It is ordered once, when the linter starts, and its end changes one field that no other action reads
or writes. So an action does the same whatever that field holds, and a run in which the end is reported
does the same as one in which it is not.

* `Action.report?`, `InstallState.after`: the end of an installation, and what becomes of its state;
* `Effect.install?`, `Effect.outward`: orders to install, and effects that are noticed outside;
* `Linter.effects`, `Linter.installStates`: what comes of a run;
* `Linter.orders`, `Linter.Reports`: the installations that are ordered, and the reports of them;
* `Regardless`, **`regardless_step`**: actions that have nothing to do with the installation;
* `installation_step`, `orders_step`: one action;
* `installation_run`, `installStates_of_ne`, `installStates_of_eq`: the states of a run;
* `run_withInstallation`, `outward_effects`: a run without the reports;
* **`installed_at_most_once`**: the validator is installed once, and nothing else depends on it.
-/

namespace LintServer

/-- The settings that an effect asks to install the validator by. -/
def Effect.install? : Effect → Option ValidatorSettings
  | install s => some s
  | _ => none

/-- Whether an effect reaches the editor, the user or the validator. -/
def Effect.outward : Effect → Bool
  | install _ => false
  | log _ => false
  | _ => true

/-- What an action reports of an installation. -/
def Action.report? : Action → Option (Except InstallError Unit)
  | installed r => some r
  | _ => none

namespace InstallState

/-- Where an installation stands that has come to something. -/
def ofResult : Except InstallError Unit → InstallState
  | .ok () => ready
  | .error _ => failed

/-- Where an installation stands after a report. Only the first one counts. -/
def after (i : InstallState) (r : Except InstallError Unit) : InstallState :=
  if i = installing then ofResult r else i

theorem ofResult_eq_ready_iff {r : Except InstallError Unit} : ofResult r = ready ↔ r = .ok () := by
  cases r <;> simp [ofResult]

theorem ofResult_eq_failed_iff {r : Except InstallError Unit} :
    ofResult r = failed ↔ r ≠ .ok () := by
  cases r <;> simp [ofResult]

theorem ofResult_ne_installing (r : Except InstallError Unit) : ofResult r ≠ installing := by
  cases r <;> simp [ofResult]

end InstallState

namespace Linter

variable {l : Linter} {a : Action}

/-- The linter with another installation. -/
def withInstallation (l : Linter) (i : InstallState) : Linter := { l with installation := i }

/-- What some actions have effected. -/
def effects (l : Linter) : List Action → List Effect
  | [] => []
  | a :: as => (l.step a).2 ++ effects (l.step a).1 as

/-- Where the installation stands at first and after each action. -/
def installStates (l : Linter) : List Action → List InstallState
  | [] => [l.installation]
  | a :: as => l.installation :: installStates (l.step a).1 as

/-- The installations that are ordered at the start and in a run. -/
def orders (s : ValidatorSettings) (installed : Bool) (as : List Action) :
    List ValidatorSettings :=
  ((start s installed).2 ++ (start s installed).1.effects as).filterMap Effect.install?

/-- What is reported has been ordered, and no order is reported of twice. -/
def Reports (s : ValidatorSettings) (w : Surroundings) (installed : Bool) (as : List Action) :
    Prop :=
  (as.filterMap Action.report?).Sublist ((orders s installed as).map fun v => (v.installIn w).1)

/-! ## One action -/

/-- Something happens without regard to the installation, and orders none. -/
structure Regardless (l : Linter) (turn : Linter → Linter × List Effect) : Prop where
  commutes : ∀ i, turn (l.withInstallation i) = ((turn l).1.withInstallation i, (turn l).2)
  orders : (turn l).2.filterMap Effect.install? = []

theorem regardless_advance (l : Linter) (id : Nat) : Regardless l (advance · id) := by
  cases hget : l.attempts.get? id with
  | none => constructor <;> simp [advance, withInstallation, hget]
  | some a =>
    obtain ⟨u, text, stage⟩ := a
    cases stage with
    | fresh tag =>
      by_cases htag : tag = l.settings.tag
      · cases hlookup : l.lookup <;> constructor <;>
          simp [advance, withInstallation, hget, htag, askOnce, hlookup, setStage, Effect.install?]
      · constructor <;> simp [advance, withInstallation, hget, htag, dropAttempt]
    | waiting =>
      cases hlookup : l.lookup with
      | answered found =>
        by_cases hwarn : !found && l.warning = .unsent <;> constructor <;>
          simp [advance, withInstallation, hget, hlookup, warnOnce, hwarn, setStage, Effect.install?]
      | _ => constructor <;> simp [advance, withInstallation, hget, hlookup]
    | cleared =>
      constructor <;> simp [advance, withInstallation, hget, launch, setStage, Effect.install?]
    | running t => constructor <;> simp [advance, withInstallation, hget]

theorem install?_map_tell (ns : List Notice) :
    (ns.map Effect.tell).filterMap Effect.install? = [] := by
  simp [List.filterMap_eq_nil_iff, Effect.install?]

theorem regardless_settle (l : Linter) (id : Nat) (outcome : Except RunError Run) :
    Regardless l (settle · id outcome) := by
  cases hget : l.attempts.get? id with
  | none => constructor <;> simp [settle, withInstallation, hget]
  | some a =>
    obtain ⟨u, text, stage⟩ := a
    cases stage with
    | running t =>
      cases outcome <;> constructor <;>
        simp [settle, withInstallation, hget, dropAttempt, Effect.install?]
    | _ => constructor <;> simp [settle, withInstallation, hget]

theorem regardless_takeAnswer (l : Linter) (choice : Except HostError (Option Nat)) :
    Regardless l (takeAnswer · choice) := by
  by_cases hshown : l.warning = .shown
  · rcases choice with e | _ | i
    · constructor <;> simp [takeAnswer, withInstallation, hshown, Effect.install?]
    · constructor <;> simp [takeAnswer, withInstallation, hshown]
    · by_cases hi : i = helpAction <;> constructor <;>
        simp [takeAnswer, withInstallation, hshown, hi, Effect.install?]
  · constructor <;> simp [takeAnswer, withInstallation, hshown]

/-- Only the end of an installation has to do with it. -/
theorem regardless_step (l : Linter) (ha : a.report? = none) : Regardless l (step · a) := by
  cases a with
  | check d => exact ⟨fun i => rfl, rfl⟩
  | checkText u text => exact ⟨fun i => rfl, rfl⟩
  | advance id => exact regardless_advance l id
  | lookedUp found =>
    by_cases hasked : l.lookup = .asked <;> constructor <;> simp [step, withInstallation, hasked]
  | ended id outcome => exact regardless_settle l id outcome
  | answered choice => exact regardless_takeAnswer l choice
  | configShown r => cases r <;> exact ⟨fun i => rfl, rfl⟩
  | installed r => cases ha
  | publish u findings => exact ⟨fun i => rfl, install?_map_tell _⟩
  | retract u => exact ⟨fun i => rfl, install?_map_tell _⟩

theorem step_installed (l : Linter) (r : Except InstallError Unit) :
    (l.step (.installed r)).1 = l.withInstallation (l.installation.after r) ∧
      (l.step (.installed r)).2.filter Effect.outward = [] ∧
      (l.step (.installed r)).2.filterMap Effect.install? = [] := by
  by_cases hrun : l.installation = .installing
  · cases r <;> simp [step, endInstall, withInstallation, hrun, InstallState.after,
      InstallState.ofResult, Effect.outward, Effect.install?]
  · simp [step, endInstall, withInstallation, hrun, InstallState.after]

theorem report_cases (a : Action) : a.report? = none ∨ ∃ r, a = .installed r := by
  cases a with
  | installed r => exact .inr ⟨r, rfl⟩
  | _ => exact .inl rfl

/-- Nothing but a report changes where the installation stands. -/
theorem installation_step (l : Linter) (a : Action) :
    (l.step a).1.installation = a.report?.elim l.installation l.installation.after := by
  obtain ha | ⟨r, rfl⟩ := report_cases a
  · rw [ha]
    exact congrArg (·.1.installation) ((regardless_step l ha).commutes l.installation)
  · rw [(step_installed l r).1]
    rfl

/-- No action orders an installation. -/
theorem orders_step (l : Linter) (a : Action) : (l.step a).2.filterMap Effect.install? = [] := by
  obtain ha | ⟨r, rfl⟩ := report_cases a
  · exact (regardless_step l ha).orders
  · exact (step_installed l r).2.2

/-! ## Runs -/

theorem orders_effects (l : Linter) (as : List Action) :
    (l.effects as).filterMap Effect.install? = [] := by
  induction as generalizing l with
  | nil => rfl
  | cons a as ih => rw [effects, List.filterMap_append, orders_step, ih, List.append_nil]

theorem installation_run (l : Linter) (as : List Action) : (l.run as).installation =
    (as.filterMap Action.report?).foldl InstallState.after l.installation := by
  induction as generalizing l with
  | nil => rfl
  | cons a as ih =>
    show ((l.step a).1.run as).installation = _
    rw [ih, installation_step, List.filterMap_cons]
    cases a.report? <;> rfl

/-- An installation that has come to something stays where it is. -/
theorem installStates_of_ne (h : l.installation ≠ .installing) (as : List Action) :
    l.installStates as = List.replicate (as.length + 1) l.installation := by
  induction as generalizing l with
  | nil => rfl
  | cons a as ih =>
    have hstep : (l.step a).1.installation = l.installation := by
      rw [installation_step]
      cases a.report? with
      | none => rfl
      | some r => exact if_neg h
    rw [installStates, ih (hstep ▸ h), hstep]
    rfl

/-- An installation that is under way moves on once, at the first report. -/
theorem installStates_of_eq {as : List Action} {r : Except InstallError Unit}
    (h : l.installation = .installing) (hreport : ∀ r', .installed r' ∈ as → r' = r) :
    l.installStates as =
      List.replicate ((as.takeWhile (·.report?.isNone)).length + 1) .installing ++
      List.replicate (as.length - (as.takeWhile (·.report?.isNone)).length) (.ofResult r) := by
  induction as generalizing l with
  | nil => exact congrArg (fun i => [i]) h
  | cons a as ih =>
    have hstep := installation_step l a
    obtain ha | ⟨r', rfl⟩ := report_cases a
    · rw [ha] at hstep
      rw [installStates, ih (hstep.trans h) fun r' hr' => hreport r' (List.mem_cons_of_mem _ hr'),
        List.takeWhile_cons_of_pos (by rw [ha]; rfl), h, List.length_cons, List.length_cons,
        Nat.add_sub_add_right]
      rfl
    · -- The first report. What follows it changes nothing, be it reports or not.
      obtain rfl := hreport r' List.mem_cons_self
      have hdone : (l.step (.installed r')).1.installation = .ofResult r' := by
        rw [hstep, h]
        rfl
      have hne := InstallState.ofResult_ne_installing r'
      rw [installStates, installStates_of_ne (hdone ▸ hne), hdone, h,
        List.takeWhile_cons_of_neg (by simp [Action.report?])]
      rfl

/-- **A run without the reports** ends in the same way but for the installation. -/
theorem run_withInstallation (l : Linter) (as : List Action) (i : InstallState) :
    (l.run as).withInstallation i =
      (l.withInstallation i).run (as.filter (·.report?.isNone)) := by
  induction as generalizing l with
  | nil => rfl
  | cons a as ih =>
    show ((l.step a).1.run as).withInstallation i = _
    rw [ih]
    obtain ha | ⟨r, rfl⟩ := report_cases a
    · have hcomm := (regardless_step l ha).commutes i
      rw [List.filter_cons_of_pos (by rw [ha]; rfl)]
      show _ = ((l.withInstallation i).step a).1.run _
      rw [hcomm]
    · rw [List.filter_cons_of_neg (by simp [Action.report?]), (step_installed l r).1]
      rfl

theorem outward_effects (l : Linter) (as : List Action) (i : InstallState) :
    (l.effects as).filter Effect.outward =
      ((l.withInstallation i).effects (as.filter (·.report?.isNone))).filter Effect.outward := by
  induction as generalizing l with
  | nil => rfl
  | cons a as ih =>
    rw [effects, List.filter_append, ih]
    obtain ha | ⟨r, rfl⟩ := report_cases a
    · have hcomm := (regardless_step l ha).commutes i
      rw [List.filter_cons_of_pos (by rw [ha]; rfl), effects, List.filter_append, hcomm]
    · rw [List.filter_cons_of_neg (by simp [Action.report?]), (step_installed l r).1,
        (step_installed l r).2.1, List.nil_append]
      rfl

/-! ## From the start -/

section Start

variable (s : ValidatorSettings) (installed : Bool) (as : List Action)

theorem orders_eq : orders s installed as = if installed then [] else [s] := by
  rw [orders, List.filterMap_append, orders_effects, List.append_nil]
  cases installed <;> rfl

variable {s installed as} {w : Surroundings}

theorem Reports.cases (h : Reports s w installed as) : as.filterMap Action.report? = [] ∨
    installed = false ∧ as.filterMap Action.report? = [(s.installIn w).1] := by
  rw [Reports, orders_eq] at h
  cases installed with
  | true => exact .inl (List.sublist_nil.1 h)
  | false => exact (List.sublist_singleton.1 h).imp_right fun h => ⟨rfl, h⟩

theorem Reports.eq (h : Reports s w installed as) {r : Except InstallError Unit}
    (hr : .installed r ∈ as) : r = (s.installIn w).1 := by
  have hmem : r ∈ as.filterMap Action.report? := List.mem_filterMap.2 ⟨_, hr, rfl⟩
  obtain hnil | ⟨-, hone⟩ := h.cases
  · rw [hnil] at hmem
    exact absurd hmem List.not_mem_nil
  · rw [hone] at hmem
    exact List.mem_singleton.1 hmem

theorem installStates_start {r : Except InstallError Unit}
    (hreport : ∀ r', .installed r' ∈ as → r' = r) : (start s installed).1.installStates as =
      if installed then List.replicate (as.length + 1) .ready
      else List.replicate ((as.takeWhile (·.report?.isNone)).length + 1) .installing ++
        List.replicate (as.length - (as.takeWhile (·.report?.isNone)).length) (.ofResult r) := by
  cases installed with
  | true => exact installStates_of_ne (fun h => by cases h) as
  | false => exact installStates_of_eq rfl hreport

theorem installation_start (h : Reports s w installed as) :
    ((start s installed).1.run as).installation =
      if installed then .ready
      else if as.filterMap Action.report? = [] then .installing
      else .ofResult (s.installIn w).1 := by
  rw [installation_run]
  obtain hnil | ⟨rfl, hone⟩ := h.cases
  · rw [hnil, if_pos rfl]
    cases installed <;> rfl
  · rw [hone, if_neg (List.cons_ne_nil _ _)]
    rfl

end Start

/-- **The validator is installed once**, if it is not there at first. It becomes ready exactly if
every step of the installer goes well, and nothing else depends on it. -/
theorem installed_at_most_once (s : ValidatorSettings) (w : Surroundings) (isThere : Path → Bool)
    (as : List Action) (hreports : Reports s w (isThere s.installedBin) as) :
    let installed := isThere s.installedBin
    let l := (start s installed).1
    let reported := as.filterMap Action.report? ≠ []
    let before := as.takeWhile (·.report?.isNone)
    let final := InstallState.ofResult (s.installIn w).1
    orders s installed as = (if installed then [] else [s]) ∧
    ((orders s installed as).flatMap fun v => (v.installIn w).2.filterMap InstallStep.launch?) =
      (if installed = false ∧ w.find s.installer = true ∧ w.makeDirectory s.installDir = .ok () then
        [(s.installer, s.installArgs)]
      else []) ∧
    l.installStates as = (if installed then List.replicate (as.length + 1) .ready
      else List.replicate (before.length + 1) .installing ++
        List.replicate (as.length - before.length) final) ∧
    ((l.run as).installation = .ready ↔ installed = true ∨ reported ∧ s.Succeeds w) ∧
    ((l.run as).installation = .failed ↔ installed = false ∧ reported ∧ ¬ s.Succeeds w) ∧
    ((l.run as).installation = .installing ↔ installed = false ∧ ¬ reported) ∧
    (∀ status stderr, w.find s.installer = true → w.makeDirectory s.installDir = .ok () →
      w.launch s.installer s.installArgs = .ok (status, stderr) → status.success = false →
      ∃ detail, (s.installIn w).1 = .error (.failed s.package detail) ∧
        InstallError.Tells s.installer status stderr detail) ∧
    ∀ installed' bs, bs.filter (·.report?.isNone) = as.filter (·.report?.isNone) →
      let l' := (start s installed').1
      l'.run bs = (l.run as).withInstallation (l'.run bs).installation ∧
      (l'.effects bs).filter Effect.outward = (l.effects as).filter Effect.outward := by
  intro installed l reported before final
  have hgoes := s.installs_installIn w
  have hready : final = .ready ↔ s.Succeeds w :=
    InstallState.ofResult_eq_ready_iff.trans hgoes.eq_ok_iff
  have hfailed : final = .failed ↔ ¬ s.Succeeds w :=
    InstallState.ofResult_eq_failed_iff.trans (not_congr hgoes.eq_ok_iff)
  have hfinal : final ≠ .installing := InstallState.ofResult_ne_installing _
  have hend : (l.run as).installation =
      if installed then .ready else if reported then final else .installing := by
    rw [installation_start hreports, ite_not]
  refine ⟨orders_eq s installed as, ?_, installStates_start fun r hr => hreports.eq hr, ?_, ?_, ?_,
    ?_, ?_⟩
  · rw [orders_eq]
    cases installed with
    | true => simp
    | false => simp [hgoes.launches]
  · rw [hend]
    cases installed <;> by_cases h : reported <;> simp_all
  · rw [hend]
    cases installed <;> by_cases h : reported <;> simp_all
  · rw [hend]
    cases installed <;> by_cases h : reported <;> simp_all
  · intro status stderr hfind hdir hlaunch hstatus
    exact hgoes.exists_detail hfind hdir hlaunch hstatus
  · -- Both runs are compared with the one that has no reports.
    intro installed' bs hbs l'
    have hstart : l'.withInstallation .ready = l.withInstallation .ready := rfl
    constructor
    · have hrun : (l'.run bs).withInstallation .ready = (l.run as).withInstallation .ready := by
        rw [run_withInstallation, run_withInstallation, hbs, hstart]
      exact congrArg (·.withInstallation (l'.run bs).installation) hrun
    · rw [outward_effects l' bs .ready, outward_effects l as .ready, hbs, hstart]

/-- The installer fails while a text is checked. It prints an invalid byte, a line and blank ones. -/
theorem failed_while_checking :
    let s : ValidatorSettings :=
      ⟨"jsonlint", "npx", "npm", [], ⟨"/opt"⟩, "json", by decide, by decide, by decide, by decide⟩
    let stderr := Text.Utf8.encode "npm ERR!".toList ++
      0xFF :: Text.Utf8.encode "\n  not found \n\n".toList
    let w : Surroundings := ⟨fun _ => true, fun _ => .ok (), fun _ _ => .ok (.code 1, stderr)⟩
    let failure : Except InstallError Unit := .error (.failed "jsonlint" "  not found")
    let as : List Action := [.checkText ⟨"a"⟩ "[1,]", .advance 0, .installed failure,
      .ended 0 (.ok ⟨true, ""⟩)]
    let bare : List Action := [.checkText ⟨"a"⟩ "[1,]", .advance 0, .ended 0 (.ok ⟨true, ""⟩)]
    Reports s w false as ∧ orders s false as = [s] ∧ ¬ s.Succeeds w ∧
    ((start s false).1.run as).installation = .failed ∧
    (start s false).1.installStates as =
      [.installing, .installing, .installing, .failed, .failed] ∧
    ((start s true).1.effects bare).filter Effect.outward =
      ((start s false).1.effects as).filter Effect.outward := by
  intro s stderr w failure as bare
  have hinstall : (s.installIn w).1 = failure := by decide +kernel
  have hreports : Reports s w false as := by
    rw [Reports, orders_eq, if_neg Bool.false_ne_true, List.map_singleton, hinstall]
    exact List.Sublist.refl _
  have hfails : ¬ s.Succeeds w := by
    rintro ⟨-, -, status, stderr', hlaunch, hstatus⟩
    cases hlaunch
    cases hstatus
  obtain ⟨horders, -, hstates, -, hfailed, -, -, hsame⟩ :=
    installed_at_most_once s w (fun _ => false) as hreports
  rw [hinstall] at hstates
  exact ⟨hreports, horders, hfails, hfailed.2 ⟨rfl, List.cons_ne_nil _ _, hfails⟩, hstates,
    (hsame true bare rfl).2⟩

end Linter

end LintServer
