import LintServer.Installation
import Mathlib.Data.List.DropRight

/-!
# What an installation comes to

An installation asks for the installer, makes the directory and starts the installer, in this order,
and each step is taken only if the one before it went well. The installer is therefore started once
or not at all. If it fails, what is told of it can be seen: it is a line that ends in a character that
is not blank, or the words for how a process ended.

* `InstallError.IsLastLine`, `isLastLine_lastLine`: the last line of a text;
* `InstallError.Tells`, **`tells_detailOf`**: what is told of an installer that failed;
* `Surroundings`, `InstallStep`, `ValidatorSettings.installIn`: an installation step by step;
* `Installs`, **`installs_installIn`**: the five ways in which it may go;
* `Succeeds`, `Installs.eq_ok_iff`: when it goes well;
* `Installs.launches`, `Installs.exists_detail`: how often the installer is started, and what is told
  if it fails.
-/

namespace LintServer

open Text (isBlank allBlank trim)

/-! ## The last line -/

namespace InstallError

/-- The last line of a text holds no line end, and in front of it stands one, or nothing. -/
def IsLastLine (text line : List Char) : Prop :=
  '\n' ∉ line ∧ (text = line ∨ ∃ before, text = before ++ '\n' :: line)

theorem lastLine_eq_rtakeWhile (s : List Char) : lastLine s = s.rtakeWhile (· ≠ '\n') := rfl

theorem isLastLine_lastLine (s : List Char) : IsLastLine s (lastLine s) := by
  rw [lastLine_eq_rtakeWhile]
  have hsplit : s.rdropWhile (· ≠ '\n') ++ s.rtakeWhile (· ≠ '\n') = s :=
    List.rdropWhile_append_rtakeWhile
  have hend := List.rdropWhile_last_not (fun c => decide (c ≠ '\n')) s
  have hline : '\n' ∉ s.rtakeWhile (· ≠ '\n') := fun h => by
    simpa using List.mem_rtakeWhile_imp h
  generalize s.rdropWhile (· ≠ '\n') = front at hsplit hend
  generalize s.rtakeWhile (· ≠ '\n') = line at hsplit hline
  subst hsplit
  refine ⟨hline, ?_⟩
  induction front using List.reverseRecOn with
  | nil => exact .inl rfl
  | append_singleton before c =>
    obtain rfl : c = '\n' := by simpa using hend (by simp)
    exact .inr ⟨before, List.append_assoc before ['\n'] line⟩

theorem mem_lastLine {c : Char} (hc : c ≠ '\n') (s : List Char) : c ∈ lastLine (s ++ [c]) := by
  rw [lastLine_eq_rtakeWhile, List.rtakeWhile_concat, if_pos (decide_eq_true hc)]
  exact List.mem_append_right _ (List.mem_singleton_self c)

end InstallError

theorem Text.exists_trim_eq {s : List Char} (h : trim s ≠ []) :
    ∃ front c, trim s = front ++ [c] ∧ isBlank c = false := by
  have hlast := List.rdropWhile_last_not isBlank (Text.trimStart s) h
  exact ⟨_, _, (List.dropLast_append_getLast h).symm, Bool.eq_false_iff.2 hlast⟩

theorem Text.allBlank_eq_false_of_mem {s : String} {c : Char} (hmem : c ∈ s.toList)
    (hc : isBlank c = false) : allBlank s = false :=
  List.all_eq_false.2 ⟨c, hmem, Bool.eq_false_iff.1 hc⟩

namespace InstallError

/-- What may be told of an installer that failed. -/
structure Tells (installer : String) (status : ExitStatus) (stderr : List UInt8)
    (detail : String) : Prop where
  visible : allBlank detail = false
  /-- It printed nothing but blank characters. -/
  of_silent : trim (Text.Utf8.decodeLossy stderr) = [] →
    detail = installer ++ " exited with " ++ status.message
  of_spoken : trim (Text.Utf8.decodeLossy stderr) ≠ [] →
    IsLastLine (trim (Text.Utf8.decodeLossy stderr)) detail.toList

/-- **What is told of a failure can be seen**, whatever has been printed. -/
theorem tells_detailOf (installer : String) (status : ExitStatus) (stderr : List UInt8) :
    Tells installer status stderr (detailOf installer status stderr) := by
  by_cases hsaid : trim (Text.Utf8.decodeLossy stderr) = []
  · have heq : detailOf installer status stderr =
        installer ++ " exited with " ++ status.message := by
      simp only [detailOf, hsaid]
      rfl
    refine ⟨?_, fun _ => heq, fun hne => absurd hsaid hne⟩
    apply Text.allBlank_eq_false_of_mem (c := 'e') _ (by decide)
    simp [heq]
  · have heq : detailOf installer status stderr =
        String.ofList (lastLine (trim (Text.Utf8.decodeLossy stderr))) := by
      simp [detailOf, hsaid]
    obtain ⟨front, c, htrim, hc⟩ := Text.exists_trim_eq hsaid
    refine ⟨?_, fun hnil => absurd hnil hsaid, fun _ => ?_⟩
    · apply Text.allBlank_eq_false_of_mem _ hc
      rw [heq, String.toList_ofList, htrim]
      apply mem_lastLine
      rintro rfl
      exact absurd hc (by decide)
    · rw [heq, String.toList_ofList]
      exact isLastLine_lastLine _

end InstallError

/-! ## Step by step -/

/-- What an installation meets outside. -/
structure Surroundings where
  find : String → Bool
  makeDirectory : Path → Except Fault Unit
  launch : String → List String → Except Fault (ExitStatus × List UInt8)

/-- A step of an installation. -/
inductive InstallStep where
  | looked (program : String)
  | made (dir : Path)
  | launched (program : String) (args : List String)
  deriving DecidableEq, Repr

/-- The program that a step starts, with its arguments. -/
def InstallStep.launch? : InstallStep → Option (String × List String)
  | launched program args => some (program, args)
  | _ => none

/-- Takes a step and gives what comes of it. -/
def InstallStep.take {α : Type} (step : InstallStep) (x : α) : StateM (List InstallStep) α :=
  fun steps => (x, steps ++ [step])

theorem InstallStep.take_bind {α β : Type} (step : InstallStep) (x : α)
    (f : α → StateM (List InstallStep) β) (steps : List InstallStep) :
    (step.take x >>= f) steps = f x (steps ++ [step]) := rfl

namespace ValidatorSettings

variable (s : ValidatorSettings) (w : Surroundings)

/-- What an installation comes to, and the steps that it takes. -/
def installIn : Except InstallError Unit × List InstallStep :=
  s.install (m := StateM (List InstallStep)) (fun p => InstallStep.take (.looked p) (w.find p))
    (fun d => InstallStep.take (.made d) (w.makeDirectory d))
    (fun p args => InstallStep.take (.launched p args) (w.launch p args)) []

/-- The ways in which an installation may go. -/
inductive Installs : Except InstallError Unit → List InstallStep → Prop
  | missing (hfind : w.find s.installer = false) :
      Installs (.error (.installerMissing s.installer)) [.looked s.installer]
  | noDirectory (f : Fault) (hfind : w.find s.installer = true)
      (hdir : w.makeDirectory s.installDir = .error f) :
      Installs (.error (.noDirectory s.installer f)) [.looked s.installer, .made s.installDir]
  | notStarted (f : Fault) (hfind : w.find s.installer = true)
      (hdir : w.makeDirectory s.installDir = .ok ())
      (hlaunch : w.launch s.installer s.installArgs = .error f) :
      Installs (.error (.notStarted s.installer f))
        [.looked s.installer, .made s.installDir, .launched s.installer s.installArgs]
  | failed (status : ExitStatus) (stderr : List UInt8) (detail : String)
      (hfind : w.find s.installer = true) (hdir : w.makeDirectory s.installDir = .ok ())
      (hlaunch : w.launch s.installer s.installArgs = .ok (status, stderr))
      (hstatus : status.success = false)
      (hdetail : InstallError.Tells s.installer status stderr detail) :
      Installs (.error (.failed s.package detail))
        [.looked s.installer, .made s.installDir, .launched s.installer s.installArgs]
  | succeeded (status : ExitStatus) (stderr : List UInt8)
      (hfind : w.find s.installer = true) (hdir : w.makeDirectory s.installDir = .ok ())
      (hlaunch : w.launch s.installer s.installArgs = .ok (status, stderr))
      (hstatus : status.success = true) :
      Installs (.ok ())
        [.looked s.installer, .made s.installDir, .launched s.installer s.installArgs]

/-- **An installation goes in one of these ways.** -/
theorem installs_installIn : s.Installs w (s.installIn w).1 (s.installIn w).2 := by
  unfold installIn install
  cases hfind : w.find s.installer with
  | false =>
    simp only [InstallStep.take_bind, hfind]
    exact .missing hfind
  | true =>
    simp only [InstallStep.take_bind, hfind, Bool.not_true, Bool.false_eq_true, if_false]
    cases hdir : w.makeDirectory s.installDir with
    | error f => exact .noDirectory f hfind hdir
    | ok _ =>
      simp only [InstallStep.take_bind]
      cases hlaunch : w.launch s.installer s.installArgs with
      | error f => exact .notStarted f hfind hdir hlaunch
      | ok r =>
        obtain ⟨status, stderr⟩ := r
        cases hstatus : status.success with
        | true =>
          simp only [hstatus, if_true]
          exact .succeeded status stderr hfind hdir hlaunch hstatus
        | false =>
          simp only [hstatus, Bool.false_eq_true, if_false]
          exact .failed status stderr _ hfind hdir hlaunch hstatus
            (InstallError.tells_detailOf _ _ _)

/-- Every step of an installation goes well. -/
def Succeeds : Prop :=
  w.find s.installer = true ∧ w.makeDirectory s.installDir = .ok () ∧ ∃ status stderr,
    w.launch s.installer s.installArgs = .ok (status, stderr) ∧ status.success = true

variable {s w} {r : Except InstallError Unit} {steps : List InstallStep}

theorem Installs.eq_ok_iff (h : s.Installs w r steps) : r = .ok () ↔ s.Succeeds w := by
  cases h with
  | missing hfind => simp [Succeeds, hfind]
  | noDirectory f hfind hdir => simp [Succeeds, hdir]
  | notStarted f hfind hdir hlaunch => simp [Succeeds, hlaunch]
  | failed status stderr detail hfind hdir hlaunch hstatus hdetail =>
    simp [Succeeds, hlaunch, hstatus]
  | succeeded status stderr hfind hdir hlaunch hstatus =>
    exact ⟨fun _ => ⟨hfind, hdir, status, stderr, hlaunch, hstatus⟩, fun _ => rfl⟩

/-- The installer is started once, and only when it has been found and the directory is there. -/
theorem Installs.launches (h : s.Installs w r steps) : steps.filterMap InstallStep.launch? =
    if w.find s.installer = true ∧ w.makeDirectory s.installDir = .ok () then
      [(s.installer, s.installArgs)]
    else [] := by
  cases h with
  | missing hfind => simp [InstallStep.launch?, hfind]
  | noDirectory f hfind hdir => simp [InstallStep.launch?, hdir]
  | notStarted f hfind hdir hlaunch => exact (if_pos ⟨hfind, hdir⟩).symm
  | failed status stderr detail hfind hdir hlaunch hstatus hdetail =>
    exact (if_pos ⟨hfind, hdir⟩).symm
  | succeeded status stderr hfind hdir hlaunch hstatus => exact (if_pos ⟨hfind, hdir⟩).symm

/-- If the installer has been started and has failed, so has the installation. -/
theorem Installs.exists_detail (h : s.Installs w r steps) {status : ExitStatus}
    {stderr : List UInt8} (hfind : w.find s.installer = true)
    (hdir : w.makeDirectory s.installDir = .ok ())
    (hlaunch : w.launch s.installer s.installArgs = .ok (status, stderr))
    (hstatus : status.success = false) : ∃ detail, r = .error (.failed s.package detail) ∧
      InstallError.Tells s.installer status stderr detail := by
  cases h with
  | missing hfind' => simp [hfind] at hfind'
  | noDirectory f hfind' hdir' => simp [hdir] at hdir'
  | notStarted f hfind' hdir' hlaunch' => simp [hlaunch] at hlaunch'
  | failed status' stderr' detail hfind' hdir' hlaunch' hstatus' hdetail =>
    obtain ⟨rfl, rfl⟩ : status = status' ∧ stderr = stderr' := by simpa [hlaunch] using hlaunch'
    exact ⟨detail, rfl, hdetail⟩
  | succeeded status' stderr' hfind' hdir' hlaunch' hstatus' =>
    obtain ⟨rfl, rfl⟩ : status = status' ∧ stderr = stderr' := by simpa [hlaunch] using hlaunch'
    simp [hstatus] at hstatus'

end ValidatorSettings

end LintServer
