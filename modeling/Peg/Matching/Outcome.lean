import Peg.Matching.Run

/-! What a run found: the matched text, the captured texts, and the failure if there was one. -/

namespace Peg

/-- A region with its text and, for a capture, its name. -/
structure Match where
  span : Span
  name : Option String
  value : String
deriving Repr, DecidableEq

namespace Match

def ofSpan (source : Source) (name : Option String) (span : Span) : Match :=
  ⟨span, name, source.slice span⟩

def size (found : Match) : Nat := found.span.size

def isEmpty (found : Match) : Bool := found.size == 0

end Match

/-- The capture slots after a run. A slot is empty when its pattern never matched. -/
structure Captures where
  slots : Array (Option Match) := #[]
deriving Repr, DecidableEq

namespace Captures

def size (captures : Captures) : Nat := captures.slots.size

def isEmpty (captures : Captures) : Bool := captures.slots.isEmpty

def get? (captures : Captures) (slot : Nat) : Option Match := captures.slots[slot]?.join

def bound (captures : Captures) : List Match := captures.slots.toList.filterMap id

def named? (captures : Captures) (name : String) : Option Match :=
  captures.bound.find? (·.name == some name)

end Captures

/-- The result of a run. A success may still carry the failure of a pattern that was tried on the
way. -/
structure Outcome where
  grammar : Grammar
  matched : Option Match
  failure : Option Failure
  captures : Captures
  position : Nat

namespace Outcome

def isSuccess (outcome : Outcome) : Bool := outcome.matched.isSome

def capture? (outcome : Outcome) (slot : Nat) : Option Match := outcome.captures.get? slot

def captureNamed? (outcome : Outcome) (name : String) : Option Match :=
  outcome.captures.named? name

def raised (outcome : Outcome) : Option MatchError :=
  if outcome.isSuccess then none else outcome.failure.map (·.raise outcome.grammar)

/-- The match, or the failure in words. A run without a match and without a failure counts as a
mismatch of the root. -/
def toMatch (outcome : Outcome) : Except MatchError Match :=
  match outcome.matched, outcome.raised with
  | some found, _ => .ok found
  | none, some error => .error error
  | none, none =>
    .error (.mismatch (outcome.grammar.describe outcome.grammar.root) outcome.position)

end Outcome

def Run.outcome (run : Run) : Outcome where
  grammar := run.grammar
  matched := run.result.map (Match.ofSpan run.start none)
  failure := run.final.failure
  captures := ⟨run.final.captures.mapIdx fun slot span =>
    span.map (Match.ofSpan run.start (run.grammar.captureName? slot))⟩
  position := run.source.position

theorem capture?_outcome (run : Run) (slot : Nat) : run.outcome.capture? slot =
    (run.final.captures[slot]?.join).map (Match.ofSpan run.start (run.grammar.captureName? slot)) := by
  simp only [Outcome.capture?, Run.outcome, Captures.get?, Array.getElem?_mapIdx]
  cases run.final.captures[slot]? <;> rfl

end Peg
