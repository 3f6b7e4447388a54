/-!
# TOML documents

A document is a tree of tables. How a table came to be decides what may still be written into it:
a table with a header of its own is closed to dotted keys, one that only stands on the way to a
header may still get its header or keys by dotted keys, one that dotted keys wrote into grows by
dotted keys only, and an inline table is complete.

* `Node`, `Kind`, `Fields`; `Node.isReadable`: whether all its numbers have a value;
* `Fields.update?`: changes the table at the end of a path, making the tables on the way;
* `Fields.assign?`, `Fields.openTable?`, `Fields.openItem?`: the three kinds of statements.
-/

namespace LintServer.Toml

/-- How a table came to be. -/
inductive Kind where
  /-- It has a header of its own, or is the root. -/
  | headed
  /-- It stands on the way to a header. -/
  | implied
  /-- A dotted key made it or wrote into it. -/
  | dotted
  /-- It is written between braces. -/
  | inline
  deriving DecidableEq, Repr

/-- What a key may stand for. -/
inductive Node where
  | text (s : String)
  | whole (z : Int)
  | fraction
  /-- A number that has the look of one and no value. -/
  | unreadable
  | truth (b : Bool)
  | moment
  /-- An array written between brackets. -/
  | list (items : List Node)
  /-- An array of tables, the last table first. -/
  | tables (items : List (List (String × Node)))
  | table (kind : Kind) (fields : List (String × Node))
  deriving Repr

mutual

/-- Whether all numbers in it have a value. -/
def Node.isReadable : Node → Bool
  | .unreadable => false
  | .list items => Node.allReadable items
  | .tables items => Node.tablesReadable items
  | .table _ fields => Node.fieldsReadable fields
  | _ => true

/-- Whether all numbers in some nodes have a value. -/
def Node.allReadable : List Node → Bool
  | [] => true
  | v :: rest => v.isReadable && Node.allReadable rest

/-- Whether all numbers in the fields of a table have a value. -/
def Node.fieldsReadable : List (String × Node) → Bool
  | [] => true
  | (_, v) :: rest => v.isReadable && Node.fieldsReadable rest

/-- Whether all numbers in some tables have a value. -/
def Node.tablesReadable : List (List (String × Node)) → Bool
  | [] => true
  | fields :: rest => Node.fieldsReadable fields && Node.tablesReadable rest

end

/-- The keys of a table in the order of their first appearance. -/
abbrev Fields : Type := List (String × Node)

namespace Fields

/-- Sets a key, in its place if it is there. -/
def put (key : String) (v : Node) : Fields → Fields
  | [] => [(key, v)]
  | (k, w) :: rest => if k = key then (k, v) :: rest else (k, w) :: put key v rest

/-- Changes the table at the end of a path. Missing tables on the way are made, as dotted ones for a
dotted key and as implied ones for a header. An inline table is never entered, and a headed one not
by a dotted key; a dotted key makes the implied ones that it enters dotted. Of an array of tables
the last one is entered. -/
def update? (dotted : Bool) :
    List String → (Kind → Fields → Option Fields) → Kind → Fields → Option Fields
  | [], change, kind, fields => change kind fields
  | key :: path, change, _, fields =>
    match fields.lookup key with
    | none =>
      let kind : Kind := if dotted then .dotted else .implied
      (update? dotted path change kind []).map fun sub => put key (.table kind sub) fields
    | some (.table kind sub) =>
      if kind = .inline || (dotted && kind = .headed) then none
      else
        let kind : Kind := if dotted then .dotted else kind
        (update? dotted path change kind sub).map fun sub => put key (.table kind sub) fields
    | some (.tables (last :: earlier)) =>
      (update? dotted path change .headed last).map fun last =>
        put key (.tables (last :: earlier)) fields
    | some _ => none

/-- Gives a key a value. A key that has one keeps it, and a dotted key adds to no table with a
header. -/
def assign? (path : List String) (key : String) (v : Node) (kind : Kind) (fields : Fields) :
    Option Fields :=
  update? true path (fun kind fields =>
    if (kind = .dotted) = path.isEmpty then none
    else if (fields.lookup key).isSome then none
    else some (put key v fields)) kind fields

/-- A header: the table is new, or has only been implied so far. -/
def openTable? (path : List String) (key : String) (root : Fields) : Option Fields :=
  update? false path (fun _ fields =>
    match fields.lookup key with
    | none => some (put key (.table .headed []) fields)
    | some (.table .implied sub) => some (put key (.table .headed sub) fields)
    | some _ => none) .headed root

/-- A header of an array of tables: a new last table in it. -/
def openItem? (path : List String) (key : String) (root : Fields) : Option Fields :=
  update? false path (fun _ fields =>
    match fields.lookup key with
    | none => some (put key (.tables [[]]) fields)
    | some (.tables items) => some (put key (.tables ([] :: items)) fields)
    | some _ => none) .headed root

/-- Changes the table that the last header opened. -/
def within? : List String → (Fields → Option Fields) → Fields → Option Fields
  | [], change, fields => change fields
  | key :: path, change, fields =>
    match fields.lookup key with
    | some (.table kind sub) =>
      (within? path change sub).map fun sub => put key (.table kind sub) fields
    | some (.tables (last :: earlier)) =>
      (within? path change last).map fun last => put key (.tables (last :: earlier)) fields
    | _ => none

end Fields

end LintServer.Toml
