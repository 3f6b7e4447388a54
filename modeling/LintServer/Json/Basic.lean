import LintServer.Decimal.Shortest

/-!
# JSON values

Objects are kept in one form: fields in strictly increasing order of their keys, so that two objects
with the same fields are equal. Whole numbers of 64 bits are kept exactly; every other number is a
double-precision one.

* `Json`, `Json.Number`;
* `Json.ofFields`: an object from fields in any order, the last of equal keys winning;
* `Json.get?`, `Json.string?`, `Json.natural?`: access to the parts of a value;
* `Json.depth`, `Json.Sorted`: how deep a value nests, and the order of its fields.
-/

namespace LintServer

/-- A number: a whole one of 64 bits, or a double-precision one with its sign. -/
inductive Json.Number where
  | int (z : Int)
  | real (negative : Bool) (size : Decimal.Binary)
  deriving DecidableEq, Repr

/-- A JSON value. -/
inductive Json where
  | null
  | bool (b : Bool)
  | number (n : Json.Number)
  | string (s : String)
  | array (items : List Json)
  | object (fields : List (String × Json))
  deriving Repr

namespace Json

instance : Inhabited Json := ⟨null⟩

/-! ## Building -/

/-- Sets a field among fields in increasing order, keeping the order. -/
def putField (key : String) (v : Json) : List (String × Json) → List (String × Json)
  | [] => [(key, v)]
  | (k, w) :: rest =>
    if key < k then (key, v) :: (k, w) :: rest
    else if key = k then (key, v) :: rest
    else (k, w) :: putField key v rest

/-- The object with the given fields; of equal keys the last one counts. -/
def ofFields (fields : List (String × Json)) : Json :=
  object (fields.foldl (fun out f => putField f.1 f.2 out) [])

/-- A natural number as a value. -/
def ofNat (n : Nat) : Json := number (.int n)

instance : Coe String Json := ⟨string⟩

instance : Coe Bool Json := ⟨bool⟩

/-! ## Access -/

/-- The value of a field; none for anything but an object. -/
def get? (key : String) : Json → Option Json
  | object fields => fields.lookup key
  | _ => none

/-- The text of a string. -/
def string? : Json → Option String
  | string s => some s
  | _ => none

/-- The value of a whole number that is not negative. -/
def natural? : Json → Option Nat
  | number (.int z) => if 0 ≤ z then some z.toNat else none
  | _ => none

/-- The items of an array. -/
def items? : Json → Option (List Json)
  | array items => some items
  | _ => none

/-! ## Measures and order -/

mutual

/-- How many arrays and objects stand around the innermost value, the outermost included. -/
def depth : Json → Nat
  | array items => depthOfItems items + 1
  | object fields => depthOfFields fields + 1
  | _ => 0

/-- The greatest depth among values. -/
def depthOfItems : List Json → Nat
  | [] => 0
  | v :: vs => max (depth v) (depthOfItems vs)

/-- The greatest depth among the values of fields. -/
def depthOfFields : List (String × Json) → Nat
  | [] => 0
  | (_, v) :: fs => max (depth v) (depthOfFields fs)

end

/-- Fields in strictly increasing order of their keys. -/
def Sorted (fields : List (String × Json)) : Prop := fields.Pairwise fun f g => f.1 < g.1

end Json

end LintServer
