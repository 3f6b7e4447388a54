import LintServer.Config.Basic
import LintServer.Toml.Reader

/-!
# Reading a configuration

A configuration is a TOML document with the tables `validator` and `editor`. Other keys are passed
over, but the numbers in them must have a value. In place of a table there may be an array of all
its values, in the order of the fields, and more items that are not looked at; a moment has no such
keys and says nothing.

* `Config.ofDocument?`, **`Config.parse?`**.
-/

namespace LintServer

namespace Toml

/-- The value of each key of a table in which the other keys can be passed over. -/
def Fields.record? (names : List String) (fields : Fields) : Option (String → Option Node) :=
  if fields.all fun f => names.contains f.1 || f.2.isReadable then some fun key => fields.lookup key
  else none

/-- The value of each key of a table, or of an array that stands for it. -/
def Node.record? (names : List String) : Node → Option (String → Option Node)
  | .table _ fields => Fields.record? names fields
  | .list items =>
    if items.length < names.length then none else some fun key => (names.zip items).lookup key
  | .tables items =>
    if items.length < names.length then none
    else some fun key => (names.zip (items.reverse.map (Node.table .headed))).lookup key
  | .moment => some fun _ => none
  | _ => none

/-- A text. -/
def Node.text? : Node → Option String
  | .text s => some s
  | _ => none

/-- A list of texts. -/
def Node.texts? : Node → Option (List String)
  | .list items => items.mapM Node.text?
  | _ => none

/-- A number of milliseconds, of 64 bits. -/
def Node.period? : Node → Option Nat
  | .whole z => if 0 ≤ z ∧ z.toNat < UInt64.size then some z.toNat else none
  | _ => none

end Toml

/-- A value that may be missing, but not of the wrong kind. -/
def Config.optional? {α : Type} (read : Toml.Node → Option α) :
    Option Toml.Node → Option (Option α)
  | none => some none
  | some v => (read v).map some

open Config (optional?)

/-- What a node says about the validator. -/
def ValidatorConfig.ofNode? (v : Toml.Node) : Option ValidatorConfig := do
  let get ← v.record? ["package", "runner", "installer", "args", "install_dir", "syntax"]
  return {
    package := ← optional? Toml.Node.text? (get "package")
    runner := ← optional? Toml.Node.text? (get "runner")
    installer := ← optional? Toml.Node.text? (get "installer")
    args := ← optional? Toml.Node.texts? (get "args")
    installDir := ← optional? Toml.Node.text? (get "install_dir")
    tag := ← optional? Toml.Node.text? (get "syntax") }

/-- What a node says about the editor. -/
def EditorConfig.ofNode? (v : Toml.Node) : Option EditorConfig := do
  let get ← v.record? ["debounce_ms"]
  return ⟨← optional? Toml.Node.period? (get "debounce_ms")⟩

namespace Config

/-- What a document says. -/
def ofDocument? (root : Toml.Fields) : Option Config := do
  let get ← Toml.Fields.record? ["validator", "editor"] root
  let validator ← optional? ValidatorConfig.ofNode? (get "validator")
  let editor ← optional? EditorConfig.ofNode? (get "editor")
  return ⟨validator, editor⟩

/-- What a text says. -/
def parse? (s : String) : Option Config := (Toml.parse? s).bind ofDocument?

end Config

end LintServer
