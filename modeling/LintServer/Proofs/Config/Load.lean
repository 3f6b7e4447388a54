import LintServer.Config.Load
import LintServer.Proofs.Text.Strict
import Mathlib.Tactic.SplitIfs

/-!
# Settings from a file

A config file counts as a whole or not at all. One that is there, can be read and leaves no required
setting blank gives every setting that it speaks of, and the defaults for the rest. Any other file
is refused with a reason, and the server goes on with the defaults.

* `Required`, `Config.firstBlank?`: the settings that must not be blank, in the order of the checks;
* `Settings.Follows`: every setting is what a configuration says, or else the default;
* `Config.SaidBy`, `saidBy_of_parse?`: what a document says under its keys;
* `Loads`, `load_eq_iff`: what loading comes to, by what is found;
* **`settings_all_or_nothing`**: the settings that the server goes on with.
-/

namespace LintServer

/-! ## Required settings -/

/-- The settings that must not be blank. -/
inductive Required where
  | package
  | runner
  | installer
  | tag
  deriving DecidableEq, Repr

namespace Required

/-- All of them, in the order in which they are checked. -/
def all : List Required := [package, runner, installer, tag]

/-- The key under which a document says it. -/
def key : Required → String
  | package => "package"
  | runner => "runner"
  | installer => "installer"
  | tag => "syntax"

/-- What a configuration says about it. -/
def said? (c : Config) : Required → Option String
  | package => c.validator.bind (·.package)
  | runner => c.validator.bind (·.runner)
  | installer => c.validator.bind (·.installer)
  | tag => c.validator.bind (·.tag)

/-- What the settings have for it. -/
def of (v : ValidatorSettings) : Required → String
  | package => v.package
  | runner => v.runner
  | installer => v.installer
  | tag => v.tag

/-- What is wrong with settings in which it is blank. -/
def error : Required → SettingsError
  | package => .blankPackage
  | runner => .blankRunner
  | installer => .blankInstaller
  | tag => .blankTag

end Required

namespace ValidatorSettings

theorem named (v : ValidatorSettings) (k : Required) : Text.allBlank (k.of v) = false := by
  cases k with
  | package => exact v.package_named
  | runner => exact v.runner_named
  | installer => exact v.installer_named
  | tag => exact v.tag_named

variable {value : Required → String} {k : Required} (args : List String) (dir : Path)

theorem make_of_blank (h : Required.all.find? (fun k => Text.allBlank (value k)) = some k) :
    make (value .package) (value .runner) (value .installer) args dir (value .tag) =
      .error k.error := by
  unfold make
  split_ifs with hp hr hi ht
  · obtain rfl : .package = k := by simpa [Required.all, hp] using h
    rfl
  · obtain rfl : .runner = k := by simpa [Required.all, hp, hr] using h
    rfl
  · obtain rfl : .installer = k := by simpa [Required.all, hp, hr, hi] using h
    rfl
  · obtain rfl : .tag = k := by simpa [Required.all, hp, hr, hi, ht] using h
    rfl
  · simp [Required.all, hp, hr, hi, ht] at h

theorem exists_make (h : ∀ k, Text.allBlank (value k) = false) :
    ∃ v, make (value .package) (value .runner) (value .installer) args dir (value .tag) = .ok v ∧
      (∀ k : Required, k.of v = value k) ∧ v.args = args ∧ v.installDir = dir := by
  refine ⟨⟨value .package, value .runner, value .installer, args, dir, value .tag, h .package,
    h .runner, h .installer, h .tag⟩, ?_, fun k => ?_, rfl, rfl⟩
  · unfold make
    rw [dif_neg (ne_true_of_eq_false (h .package)), dif_neg (ne_true_of_eq_false (h .runner)),
      dif_neg (ne_true_of_eq_false (h .installer)), dif_neg (ne_true_of_eq_false (h .tag))]
  · cases k <;> rfl

end ValidatorSettings

/-- Every setting is what a configuration says about it, or else the default. -/
structure Settings.Follows (env : Environment) (c : Config) (s : Settings) : Prop where
  required : ∀ k : Required,
    k.of s.validator = (k.said? c).getD (k.of (Settings.default env).validator)
  args : s.validator.args =
    (c.validator.bind (·.args)).getD (Settings.default env).validator.args
  installDir : s.validator.installDir =
    (c.installDir?.map (Location.expandPath env)).getD (Settings.default env).validator.installDir
  quiet : s.quiet = (c.editor.bind (·.quiet)).getD (Settings.default env).quiet

namespace Config

variable {env : Environment} {file : Path → FileState} {c : Config} {s : Settings} {k : Required}

/-! ## Checking -/

/-- A required setting before it is checked. -/
def value (env : Environment) (c : Config) (k : Required) : String :=
  (k.said? c).getD (k.of (Settings.default env).validator)

/-- The first required setting that is blank. -/
def firstBlank? (env : Environment) (c : Config) : Option Required :=
  Required.all.find? fun k => Text.allBlank (c.value env k)

/-- The install directory before the checks. -/
def place (env : Environment) (c : Config) : Path :=
  (c.installDir?.map (Location.expandPath env)).getD (Settings.default env).validator.installDir

theorem resolve_eq (env : Environment) (c : Config) : c.resolve env =
    (ValidatorSettings.make (c.value env .package) (c.value env .runner) (c.value env .installer)
      ((c.validator.bind (·.args)).getD (Settings.default env).validator.args) (c.place env)
      (c.value env .tag)).map fun v =>
        ⟨v, (c.editor.bind (·.quiet)).getD (Settings.default env).quiet⟩ := by
  unfold resolve place
  cases c.installDir? <;> rfl

/-- **The first blank setting** decides. -/
theorem resolve_of_blank (h : c.firstBlank? env = some k) : c.resolve env = .error k.error := by
  rw [resolve_eq, ValidatorSettings.make_of_blank _ _ h]
  rfl

/-- **Without a blank setting** there are settings, and they follow the configuration. -/
theorem exists_resolve (h : c.firstBlank? env = none) :
    ∃ s, c.resolve env = .ok s ∧ s.Follows env c := by
  have hnamed : ∀ k, Text.allBlank (c.value env k) = false := by
    intro k
    have hk : k ∈ Required.all := by cases k <;> decide
    simpa using List.find?_eq_none.1 h k hk
  obtain ⟨v, hmake, hrequired, hargs, hdir⟩ := ValidatorSettings.exists_make
    ((c.validator.bind (·.args)).getD (Settings.default env).validator.args) (c.place env) hnamed
  refine ⟨⟨v, (c.editor.bind (·.quiet)).getD (Settings.default env).quiet⟩, ?_,
    hrequired, hargs, hdir, rfl⟩
  rw [resolve_eq, hmake]
  rfl

theorem follows_default (env : Environment) : (Settings.default env).Follows env empty := by
  have hvalue : ∀ k : Required, empty.value env k = k.of (Settings.default env).validator := by
    intro k
    cases k <;> rfl
  have hnamed : empty.firstBlank? env = none := by
    refine List.find?_eq_none.2 fun k _ => ne_true_of_eq_false ?_
    rw [hvalue]
    exact (Settings.default env).validator.named k
  obtain ⟨s, hs, hfollows⟩ := exists_resolve hnamed
  rw [resolve_empty] at hs
  cases hs
  exact hfollows

/-! ## Documents -/

open Toml (Fields Node)

/-- The keys of the table about the validator. -/
def validatorKeys : List String :=
  ["package", "runner", "installer", "args", "install_dir", "syntax"]

/-- The keys of the table about the editor. -/
def editorKeys : List String := ["debounce_ms"]

/-- What a document has under a key of one of its tables. -/
def node? (root : Fields) (table : String) (keys : List String) (key : String) : Option Node :=
  ((root.lookup table).bind (Node.record? keys)).bind fun get => get key

/-- A configuration says what a document has under its keys, and nothing about keys that are not
there. -/
structure SaidBy (c : Config) (root : Fields) : Prop where
  required : ∀ k : Required,
    optional? Node.text? (node? root "validator" validatorKeys k.key) = some (k.said? c)
  args : optional? Node.texts? (node? root "validator" validatorKeys "args") =
    some (c.validator.bind (·.args))
  installDir : optional? Node.text? (node? root "validator" validatorKeys "install_dir") =
    some c.installDir?
  quiet : optional? Node.period? (node? root "editor" editorKeys "debounce_ms") =
    some (c.editor.bind (·.quiet))

theorem saidBy_validator {node : Option Node} {validator : Option ValidatorConfig}
    (h : optional? ValidatorConfig.ofNode? node = some validator) (editor : Option EditorConfig) :
    let c : Config := ⟨validator, editor⟩
    let at? := fun key => (node.bind (Node.record? validatorKeys)).bind fun get => get key
    (∀ k : Required, optional? Node.text? (at? k.key) = some (k.said? c)) ∧
      optional? Node.texts? (at? "args") = some (c.validator.bind (·.args)) ∧
      optional? Node.text? (at? "install_dir") = some c.installDir? := by
  cases node with
  | none =>
    cases h
    exact ⟨fun k => by cases k <;> rfl, rfl, rfl⟩
  | some v =>
    obtain ⟨said, hsaid, rfl⟩ := Option.map_eq_some_iff.1 h
    simp only [ValidatorConfig.ofNode?, Option.bind_eq_bind, Option.bind_eq_some_iff,
      Option.pure_def, Option.some.injEq] at hsaid
    obtain ⟨get, hget, package, hpackage, runner, hrunner, installer, hinstaller, args, hargs, dir,
      hdir, tag, htag, rfl⟩ := hsaid
    rw [Option.bind_some, show v.record? validatorKeys = some get from hget]
    refine ⟨fun k => ?_, hargs, hdir⟩
    cases k with
    | package => exact hpackage
    | runner => exact hrunner
    | installer => exact hinstaller
    | tag => exact htag

theorem saidBy_editor {node : Option Node} {editor : Option EditorConfig}
    (h : optional? EditorConfig.ofNode? node = some editor) :
    optional? Node.period? ((node.bind (Node.record? editorKeys)).bind fun get =>
      get "debounce_ms") = some (editor.bind (·.quiet)) := by
  cases node with
  | none =>
    cases h
    rfl
  | some v =>
    obtain ⟨said, hsaid, rfl⟩ := Option.map_eq_some_iff.1 h
    simp only [EditorConfig.ofNode?, Option.bind_eq_bind, Option.bind_eq_some_iff, Option.pure_def,
      Option.some.injEq] at hsaid
    obtain ⟨get, hget, quiet, hquiet, rfl⟩ := hsaid
    rw [Option.bind_some, show v.record? editorKeys = some get from hget]
    exact hquiet

/-- **A text says what its document has.** -/
theorem saidBy_of_parse? {text : String} (h : parse? text = some c) :
    ∃ root, Toml.parse? text = some root ∧ c.SaidBy root := by
  obtain ⟨root, hroot, h⟩ := Option.bind_eq_some_iff.1 h
  refine ⟨root, hroot, ?_⟩
  simp only [ofDocument?, Option.bind_eq_bind, Option.bind_eq_some_iff, Option.pure_def,
    Option.some.injEq] at h
  obtain ⟨get, hget, validator, hvalidator, editor, heditor, rfl⟩ := h
  have hlookup : ∀ key, get key = root.lookup key := by
    intro key
    unfold Fields.record? at hget
    split_ifs at hget
    rw [← Option.some.inj hget]
  rw [hlookup] at hvalidator heditor
  obtain ⟨hrequired, hargs, hdir⟩ := saidBy_validator hvalidator editor
  exact ⟨hrequired, hargs, hdir, saidBy_editor heditor⟩

/-! ## Files -/

/-- What loading the settings comes to. -/
inductive Loads (env : Environment) (file : Path → FileState) :
    Except ConfigError Settings → Prop where
  /-- There is no place for a config file. -/
  | nowhere (hplace : Location.configPath? env = none) : Loads env file (.ok (.default env))
  | absent (p : Path) (hplace : Location.configPath? env = some p) (hfile : file p = .absent) :
      Loads env file (.ok (.default env))
  /-- It is a directory, or something else that cannot be read. -/
  | unreadable (p : Path) (f : Fault) (hplace : Location.configPath? env = some p)
      (hfile : file p = .unreadable f) : Loads env file (.error (.unread p f))
  | notText (p : Path) (bytes : List UInt8) (hplace : Location.configPath? env = some p)
      (hfile : file p = .content bytes)
      (hbytes : ∀ text : String, bytes ≠ Text.Utf8.encode text.toList) :
      Loads env file (.error (.unread p .notText))
  | unparsed (p : Path) (text : String) (hplace : Location.configPath? env = some p)
      (hfile : file p = .content (Text.Utf8.encode text.toList)) (htext : parse? text = none) :
      Loads env file (.error (.unparsed p))
  | blank (p : Path) (text : String) (c : Config) (k : Required)
      (hplace : Location.configPath? env = some p)
      (hfile : file p = .content (Text.Utf8.encode text.toList)) (htext : parse? text = some c)
      (hblank : c.firstBlank? env = some k) : Loads env file (.error (.invalid p k.error))
  | followed (p : Path) (text : String) (c : Config) (s : Settings)
      (hplace : Location.configPath? env = some p)
      (hfile : file p = .content (Text.Utf8.encode text.toList)) (htext : parse? text = some c)
      (hblank : c.firstBlank? env = none) (hs : s.Follows env c) : Loads env file (.ok s)

theorem eq_of_follows {t : Settings} (hs : s.Follows env c) (ht : t.Follows env c) : s = t := by
  have hrequired : ∀ k : Required, k.of s.validator = k.of t.validator := fun k =>
    (hs.required k).trans (ht.required k).symm
  have hpackage := hrequired .package
  have hrunner := hrequired .runner
  have hinstaller := hrequired .installer
  have htag := hrequired .tag
  have hargs := hs.args.trans ht.args.symm
  have hdir := hs.installDir.trans ht.installDir.symm
  have hquiet := hs.quiet.trans ht.quiet.symm
  obtain ⟨⟨⟩, _⟩ := s
  obtain ⟨⟨⟩, _⟩ := t
  simp_all [Required.of]

theorem load_nowhere (hplace : Location.configPath? env = none) :
    load env file = .ok (.default env) := by
  rw [load, found, hplace]
  rfl

theorem load_of_place {p : Path} (hplace : Location.configPath? env = some p) : load env file =
    ofFile p (file p) >>= fun c => (c.resolve env).mapError fun e => .invalid p e := by
  rw [load, found, hplace]
  rfl

theorem ofFile_encode (p : Path) (text : String) : ofFile p (.content (Text.Utf8.encode text.toList)) =
    match parse? text with
    | none => .error (.unparsed p)
    | some c => .ok c := by
  cases htext : parse? text <;> simp [ofFile, Text.Utf8.decode?_encode, htext]

theorem load_of_loads {r : Except ConfigError Settings} (h : Loads env file r) :
    load env file = r := by
  cases h with
  | nowhere hplace => exact load_nowhere hplace
  | absent p hplace hfile =>
    rw [load_of_place hplace, hfile]
    rfl
  | unreadable p f hplace hfile =>
    rw [load_of_place hplace, hfile]
    rfl
  | notText p bytes hplace hfile hbytes =>
    have hnone : Text.Utf8.decode? bytes = none := by
      refine Option.eq_none_iff_forall_ne_some.2 fun cs hcs => hbytes (String.ofList cs) ?_
      rw [String.toList_ofList]
      exact Text.Utf8.decode?_eq_some_iff.1 hcs
    rw [load_of_place hplace, hfile, ofFile, hnone]
    rfl
  | unparsed p text hplace hfile htext =>
    rw [load_of_place hplace, hfile, ofFile_encode, htext]
    rfl
  | blank p text c k hplace hfile htext hblank =>
    rw [load_of_place hplace, hfile, ofFile_encode, htext]
    show (c.resolve env).mapError _ = _
    rw [resolve_of_blank hblank]
    rfl
  | followed p text c s hplace hfile htext hblank hs =>
    obtain ⟨t, ht, hfollows⟩ := exists_resolve hblank
    rw [load_of_place hplace, hfile, ofFile_encode, htext]
    show (c.resolve env).mapError _ = _
    rw [ht, eq_of_follows hs hfollows]
    rfl

theorem exists_loads (env : Environment) (file : Path → FileState) : ∃ r, Loads env file r := by
  cases hplace : Location.configPath? env with
  | none => exact ⟨_, .nowhere hplace⟩
  | some p =>
    cases hfile : file p with
    | absent => exact ⟨_, .absent p hplace hfile⟩
    | unreadable f => exact ⟨_, .unreadable p f hplace hfile⟩
    | content bytes =>
      by_cases hbytes : ∃ text : String, bytes = Text.Utf8.encode text.toList
      · obtain ⟨text, rfl⟩ := hbytes
        cases htext : parse? text with
        | none => exact ⟨_, .unparsed p text hplace hfile htext⟩
        | some c =>
          cases hblank : c.firstBlank? env with
          | some k => exact ⟨_, .blank p text c k hplace hfile htext hblank⟩
          | none =>
            obtain ⟨s, -, hs⟩ := exists_resolve hblank
            exact ⟨_, .followed p text c s hplace hfile htext hblank hs⟩
      · exact ⟨_, .notText p bytes hplace hfile (not_exists.1 hbytes)⟩

theorem load_eq_iff {r : Except ConfigError Settings} : load env file = r ↔ Loads env file r := by
  refine ⟨fun h => ?_, load_of_loads⟩
  obtain ⟨r', hr'⟩ := exists_loads env file
  rw [← h, load_of_loads hr']
  exact hr'

/-! ## Going on -/

/-- The settings that the server goes on with. Those of a refused file are replaced by the ones of a
configuration that says nothing, which are checked like any others. -/
def settings (env : Environment) (file : Path → FileState) : Except SettingsError Settings :=
  match load env file with
  | .ok s => .ok s
  | .error _ => empty.resolve env

theorem settings_eq (env : Environment) (file : Path → FileState) :
    settings env file = .ok (loadOrDefault env file) := by
  unfold settings loadOrDefault
  cases load env file with
  | ok s => rfl
  | error e => exact resolve_empty env

theorem path_of_load {e : ConfigError} (h : load env file = .error e) :
    Location.configPath? env = some e.path := by
  cases load_eq_iff.1 h with
  | unreadable p f hplace hfile => exact hplace
  | notText p bytes hplace hfile hbytes => exact hplace
  | unparsed p text hplace hfile htext => exact hplace
  | blank p text c k hplace hfile htext hblank => exact hplace

/-- **All or nothing.** Loading comes to exactly one of the things above, and the server goes on
with the settings of the file as a whole or with all the defaults. -/
theorem settings_all_or_nothing (env : Environment) (file : Path → FileState) :
    settings env file = .ok (loadOrDefault env file) ∧
    (∀ r, load env file = r ↔ Loads env file r) ∧
    (∀ s, load env file = .ok s → loadOrDefault env file = s) ∧
    (∀ e, load env file = .error e → loadOrDefault env file = .default env ∧
      Location.configPath? env = some e.path) ∧
    (Settings.default env).Follows env empty ∧
    ∀ text c, parse? text = some c → ∃ root, Toml.parse? text = some root ∧ c.SaidBy root := by
  refine ⟨settings_eq env file, fun r => load_eq_iff, fun s h => ?_, fun e h => ⟨?_, path_of_load h⟩,
    ?_, fun text c => saidBy_of_parse?⟩
  · rw [loadOrDefault, h]
  · rw [loadOrDefault, h]
  · exact follows_default env

/-- A file that says three things, and one whose runner is a blank that does not look like one. It is
refused as well where only the system knows the home directory. -/
theorem blank_runner_refuses_file :
    let env := Environment.ofSettings ["HOME=/home/me", "DIR=/opt"]
    let other := Environment.ofSettings ["HOME="] (some ⟨"/root"⟩)
    let good := "[validator]\ninstall_dir = '$\x7bDIR\x7d/v'\nsyntax = 'jsonc'\n" ++
      "[editor]\ndebounce_ms = 5\n"
    let bad := "[editor]\ndebounce_ms = 5\n[validator]\ninstaller = ''\nrunner = '\u00a0'\n"
    let file := fun (text : String) (_ : Path) =>
      FileState.content (Text.Utf8.encode text.toList)
    let s := loadOrDefault env (file good)
    (s.validator.package = "jsonlint" ∧ s.validator.runner = "npx" ∧
      s.validator.installer = "npm" ∧ s.validator.tag = "jsonc" ∧
      s.validator.installDir = ⟨"/opt/v"⟩ ∧ s.quiet = 5) ∧
    load env (file bad) =
      .error (.invalid ⟨"/home/me/.jsonlint-ls/config.toml"⟩ .blankRunner) ∧
    loadOrDefault env (file bad) = .default env ∧
    load other (file bad) = .error (.invalid ⟨"/root/.jsonlint-ls/config.toml"⟩ .blankRunner) ∧
    (loadOrDefault other (file bad)).validator.installDir = ⟨"/root/.jsonlint-ls/validator"⟩ := by
  intro env other good bad file s
  have hplace : Location.configPath? env = some ⟨"/home/me/.jsonlint-ls/config.toml"⟩ := by
    decide +kernel
  have hgood : parse? good = some ⟨some ⟨none, none, none, none, some "$\x7bDIR\x7d/v",
      some "jsonc"⟩, some ⟨some 5⟩⟩ := by
    decide +kernel
  have hbad : parse? bad = some ⟨some ⟨none, some "\u00a0", some "", none, none, none⟩,
      some ⟨some 5⟩⟩ := by
    decide +kernel
  obtain ⟨t, -, ht⟩ := exists_resolve (by decide +kernel : firstBlank? env
    ⟨some ⟨none, none, none, none, some "$\x7bDIR\x7d/v", some "jsonc"⟩, some ⟨some 5⟩⟩ = none)
  obtain ⟨-, hgoods, hkept, -⟩ := settings_all_or_nothing env (file good)
  obtain ⟨-, hbads, -, hrefused, -⟩ := settings_all_or_nothing env (file bad)
  have hs : s = t := hkept t ((hgoods _).2
    (.followed _ good _ t hplace rfl hgood (by decide +kernel) ht))
  have hload := (hbads _).2 (.blank _ bad _ .runner hplace rfl hbad (by decide +kernel))
  obtain ⟨-, hothers, -, hotherRefused, -⟩ := settings_all_or_nothing other (file bad)
  have hother : load other (file bad) =
      .error (.invalid ⟨"/root/.jsonlint-ls/config.toml"⟩ .blankRunner) :=
    (hothers _).2 (.blank _ bad _ .runner (by decide +kernel) rfl hbad (by decide +kernel))
  refine ⟨?_, hload, (hrefused _ hload).1, hother, ?_⟩
  rotate_left
  · rw [(hotherRefused _ hother).1]
    decide +kernel
  rw [hs]
  exact ⟨ht.required .package, ht.required .runner, ht.required .installer, ht.required .tag,
    ht.installDir.trans (by decide +kernel), ht.quiet⟩

end Config

end LintServer
