import LintServer.Document
import LintServer.Finding
import LintServer.Table

/-!
# Publishing issues

Runs for one document may overlap and end in any order. Each run takes a ticket when it starts. When
it ends, its findings are applied unless a later ticket of the document has been applied before, or
the document's issues have been replaced or removed since the ticket was issued.

* `Ticket`, `Board`, `Publisher`, `Notice`: a notice is what the editor is told;
* `Publisher.begin`, `complete`, `abandon`: the life of a ticket;
* `Publisher.publish`, `retract`: issues set and removed without a ticket;
* **`Publisher.step`**: one operation of any kind, with its answer.
-/

namespace LintServer

/-- The right to report on a document once. Later tickets have greater numbers. -/
structure Ticket where
  uri : Uri
  number : Nat
  deriving DecidableEq, Repr

/-- What the editor is told about a document. -/
inductive Notice where
  /-- These are its issues. -/
  | publish (uri : Uri) (issues : List Issue)
  /-- It is no longer tracked. -/
  | clear (uri : Uri)
  deriving DecidableEq, Repr

/-- The issues of every tracked document. One without issues may be tracked too. -/
abbrev Board : Type := Table Uri (List Issue)

/-- The number of issues of all documents; every issue is an error. -/
def Board.errorCount (b : Board) : Nat := b.values.flatten.length

/-- The issues that are shown, and the tickets under way. -/
structure Publisher where
  tracked : Board
  /-- The number of the last ticket. -/
  issued : Nat
  /-- How many tickets of a document have not come back. -/
  outstanding : Table Uri Nat
  /-- Up to which number the tickets of a document are stale; kept while one is outstanding. -/
  staleUpTo : Table Uri Nat
  deriving DecidableEq

namespace Publisher

/-- Nothing is tracked and no ticket has been issued. -/
def empty : Publisher := ⟨.empty, 0, .empty, .empty⟩

/-- The issues of a document, if it is tracked. -/
def issues? (p : Publisher) (u : Uri) : Option (List Issue) := p.tracked.get? u

/-- How many tickets of a document have not come back. -/
def outstandingOf (p : Publisher) (u : Uri) : Nat := (p.outstanding.get? u).getD 0

/-- Whether a ticket is too old to be applied. -/
def isStale (p : Publisher) (t : Ticket) : Bool :=
  match p.staleUpTo.get? t.uri with
  | some n => t.number ≤ n
  | none => false

/-- Replaces the issues of a document. -/
def apply (p : Publisher) (u : Uri) (findings : List Finding) : Publisher × List Notice :=
  let issues := findings.map Issue.ofFinding
  ({ p with tracked := p.tracked.insert u issues }, [.publish u issues])

/-- Makes every ticket of a document stale that has been issued so far. -/
def invalidate (p : Publisher) (u : Uri) : Publisher :=
  if p.outstanding.contains u then { p with staleUpTo := p.staleUpTo.insert u p.issued } else p

/-- Takes a ticket back. With the last one of a document its bookkeeping goes. -/
def retire (p : Publisher) (u : Uri) : Publisher :=
  match p.outstanding.get? u with
  | none => p
  | some n =>
    if n ≤ 1 then
      { p with outstanding := p.outstanding.erase u, staleUpTo := p.staleUpTo.erase u }
    else { p with outstanding := p.outstanding.insert u (n - 1) }

/-- Issues a ticket for a run that is about to start. -/
def begin (p : Publisher) (u : Uri) : Publisher × Ticket :=
  ({ p with
      issued := p.issued + 1
      outstanding := p.outstanding.insert u (p.outstandingOf u + 1) },
    ⟨u, p.issued + 1⟩)

/-- Takes a ticket back with the findings of its run, and applies them unless it is stale. -/
def complete (p : Publisher) (t : Ticket) (findings : List Finding) :
    Publisher × Bool × List Notice :=
  if p.isStale t then (p.retire t.uri, false, [])
  else
    let r := { p with staleUpTo := p.staleUpTo.insert t.uri t.number }.apply t.uri findings
    (r.1.retire t.uri, true, r.2)

/-- Takes a ticket back whose run came to nothing. -/
def abandon (p : Publisher) (t : Ticket) : Publisher := p.retire t.uri

/-- Replaces the issues of a document; every ticket of it becomes stale. -/
def publish (p : Publisher) (u : Uri) (findings : List Finding) : Publisher × List Notice :=
  (p.invalidate u).apply u findings

/-- Removes a document; every ticket of it becomes stale. The answer is whether it was tracked or
had a ticket outstanding. -/
def retract (p : Publisher) (u : Uri) : Publisher × Bool × List Notice :=
  let known := p.tracked.contains u
  ({ p.invalidate u with tracked := p.tracked.erase u },
    known || p.outstanding.contains u,
    if known then [.clear u] else [])

/-! ## Operations as data -/

/-- An operation. -/
inductive Operation where
  | begin (u : Uri)
  | complete (t : Ticket) (findings : List Finding)
  | abandon (t : Ticket)
  | publish (u : Uri) (findings : List Finding)
  | retract (u : Uri)
  deriving DecidableEq, Repr

/-- The document that an operation is about. -/
def Operation.uri : Operation → Uri
  | begin u => u
  | complete t _ => t.uri
  | abandon t => t.uri
  | publish u _ => u
  | retract u => u

/-- The answer to an operation. -/
inductive Answer where
  | ticket (t : Ticket)
  | truth (b : Bool)
  | done
  deriving DecidableEq, Repr

/-- One operation: the new state, the answer, and what the editor is told. -/
def step (p : Publisher) : Operation → Publisher × Answer × List Notice
  | .begin u => let r := p.begin u; (r.1, .ticket r.2, [])
  | .complete t findings => let r := p.complete t findings; (r.1, .truth r.2.1, r.2.2)
  | .abandon t => (p.abandon t, .done, [])
  | .publish u findings => let r := p.publish u findings; (r.1, .done, r.2)
  | .retract u => let r := p.retract u; (r.1, .truth r.2.1, r.2.2)

end Publisher

end LintServer
