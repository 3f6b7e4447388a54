import LintServer.Config.Basic
import LintServer.Proofs.Path

/-!
# Places that begin with a tilde

A tilde at the start of a place, alone or before a separator, is the home directory, and what stands
behind the separator is a path below it, unless a further separator makes it an absolute path, which
replaces the home directory.

* `expandTilde_home`, `expandTilde_below`, `expandTilde_other`: the three kinds of places;
* `FromHome`, `below_expandPath`: places that stay below the home directory;
* **`expandPath_below_home_iff`**: what a place is, with values and tilde put in;
* `second_separator_leaves_home`: a further separator behind the first one leads out of it.
-/

namespace LintServer.Location

open LintServer.Path (Below)

variable {env : Environment} {home : Path}

/-! ## The tilde -/

theorem home?_of_absolute (hhome : env "HOME" = some home.text) (habs : home.isAbsolute = true) :
    env.home? = some home :=
  env.home_of_variable home.text hhome (Path.isEmpty_of_absolute habs)

theorem expandTilde_home (hhome : env.home? = some home) : expandTilde env "~" = home := by
  rw [expandTilde, hhome]
  rfl

theorem expandTilde_below (hhome : env.home? = some home) (rest : Path) :
    expandTilde env ("~/" ++ rest.text) = home.join rest := by
  have htext : ("~/" ++ rest.text).toList = '~' :: '/' :: rest.text.toList := String.toList_append
  rw [expandTilde, hhome, htext]
  change home.child (String.ofList rest.text.toList) = _
  rw [String.ofList_toList, Path.child]

/-- A place that does not begin with a tilde for the home directory is taken as it is. -/
theorem expandTilde_other {s : String} (hs : s ≠ "~") (hs' : ∀ rest, s ≠ "~/" ++ rest) :
    expandTilde env s = ⟨s⟩ := by
  unfold expandTilde
  split
  · rename_i heq
    exact absurd (String.toList_inj.1 heq) hs
  · rename_i rest _ heq
    refine absurd (String.toList_inj.1 ?_) (hs' (String.ofList rest))
    simp only [heq, String.toList_append, String.toList_ofList]
    rfl
  · rfl

/-! ## Below the home directory -/

/-- A place that begins with a tilde behind which one separator stands at most. -/
def FromHome (s : String) : Prop :=
  s = "~" ∨ ∃ rest : Path, rest.isAbsolute = false ∧ s = "~/" ++ rest.text

theorem below_expandPath (hhome : env "HOME" = some home.text) (habs : home.isAbsolute = true)
    {value : String} (h : FromHome (Template.expand env value)) :
    Below home (expandPath env value) := by
  have hhome := home?_of_absolute hhome habs
  rcases h with h | ⟨rest, hrest, h⟩
  · rw [expandPath, h, expandTilde_home hhome]
    exact Path.below_self habs
  · rw [expandPath, h, expandTilde_below hhome]
    exact Path.below_join habs hrest

theorem configPath?_of_variable {v : String} (hv : env configVariable = some v)
    (hblank : Text.allBlank v = false) : configPath? env = some (expandPath env v) := by
  rw [configPath?, chosenConfig?, hv, Option.bind_some, hblank]
  rfl

theorem installDir_of_make {package runner installer : String} {args : List String} {dir : Path}
    {tag : String} {v : ValidatorSettings}
    (h : ValidatorSettings.make package runner installer args dir tag = .ok v) :
    v.installDir = dir := by
  unfold ValidatorSettings.make at h
  split_ifs at h
  cases h
  rfl

theorem installDir_of_resolve {c : Config} {s : Settings} {dir : String}
    (hdir : c.installDir? = some dir) (h : c.resolve env = .ok s) :
    s.validator.installDir = expandPath env dir := by
  rw [Config.resolve, hdir] at h
  generalize hv : ValidatorSettings.make _ _ _ _ _ _ = made at h
  cases made with
  | error e => cases h
  | ok v =>
    cases h
    exact installDir_of_make hv

/-- **What a place is, with values and tilde put in.** Behind a tilde and a separator it is below
the home directory exactly if the rest is not absolute, or the home directory is the root. -/
theorem expandPath_below_home_iff (hhome : env "HOME" = some home.text)
    (habs : home.isAbsolute = true) :
    (∀ value, Template.expand env value = "~" → expandPath env value = home) ∧
    (∀ value (rest : Path), Template.expand env value = "~/" ++ rest.text →
      (expandPath env value).isAbsolute = true ∧
      ((expandPath env value).components = home.components ++ rest.components ↔
        rest.isAbsolute = false ∨ home.components = []) ∧
      (rest.isAbsolute = true → expandPath env value = rest)) ∧
    (∀ value, Template.expand env value ≠ "~" → (∀ rest, Template.expand env value ≠ "~/" ++ rest) →
      expandPath env value = ⟨Template.expand env value⟩) ∧
    (∀ v, env configVariable = some v → Text.allBlank v = false → FromHome (Template.expand env v) →
      ∃ p, configPath? env = some p ∧ Below home p) ∧
    ∀ (c : Config) (s : Settings) dir, c.installDir? = some dir →
      FromHome (Template.expand env dir) → c.resolve env = .ok s →
      Below home s.validator.installDir := by
  have hhome' := home?_of_absolute hhome habs
  refine ⟨fun value h => ?_, fun value rest h => ?_, fun value => expandTilde_other,
    fun v hv hblank h => ?_, fun c s dir hdir h hs => ?_⟩
  · rw [expandPath, h, expandTilde_home hhome']
  · rw [expandPath, h, expandTilde_below hhome']
    refine ⟨Path.isAbsolute_join habs, ?_, Path.join_of_absolute⟩
    cases hrest : rest.isAbsolute with
    | false =>
      simp only [Path.components_join (Path.isEmpty_of_absolute habs) hrest, true_or]
    | true =>
      rw [Path.join_of_absolute hrest, List.self_eq_append_left]
      simp only [Bool.true_eq_false, false_or]
  · exact ⟨_, configPath?_of_variable hv hblank, below_expandPath hhome habs h⟩
  · rw [installDir_of_resolve hdir hs]
    exact below_expandPath hhome habs h

/-- The tilde and the separator come from a variable, and the config file lies below the home
directory. -/
theorem tilde_from_variable_below_home :
    let env := Environment.ofSettings ["HOME=/home/me", "TILDE=~/",
      "JSONLINT_LS_CONFIG=$\x7bTILDE\x7da/../b.toml"]
    let home : Path := ⟨"/home/me"⟩
    let rest : Path := ⟨"a/../b.toml"⟩
    (expandPath env "$\x7bTILDE\x7da/../b.toml").components = home.components ++ rest.components ∧
      ∃ p, configPath? env = some p ∧ Below home p := by
  intro env home rest
  obtain ⟨-, hbelow, -, hconfig, -⟩ :=
    @expandPath_below_home_iff env home (by decide +kernel) (by decide +kernel)
  have htext : Template.expand env "$\x7bTILDE\x7da/../b.toml" = "~/" ++ rest.text := by
    decide +kernel
  have hrest : rest.isAbsolute = false := by decide +kernel
  refine ⟨(hbelow _ rest htext).2.1.2 (.inl hrest), ?_⟩
  exact hconfig _ (by decide +kernel) (by decide +kernel) (.inr ⟨rest, hrest, htext⟩)

/-- A further separator behind the first one leaves the home directory, although the place begins
with a tilde. -/
theorem second_separator_leaves_home :
    let env := Environment.ofSettings ["HOME=/home/me", "JSONLINT_LS_CONFIG=~//x"]
    let home : Path := ⟨"/home/me"⟩
    let rest : Path := ⟨"/x"⟩
    (env "HOME" = some home.text ∧ home.isAbsolute = true ∧
      Template.expand env "~//x" = "~/" ++ rest.text) ∧
    (expandPath env "~//x").components ≠ home.components ++ rest.components ∧
    configPath? env = some rest ∧ ¬ Below home rest := by
  intro env home rest
  refine ⟨by decide +kernel, by decide +kernel, by decide +kernel, fun h => ?_⟩
  exact absurd h.components (by decide +kernel)

end LintServer.Location
