import Peg.Matching.Trace

/-! What a run carries from node to node. -/

namespace Peg

/-- The position in the text, the latest failure, the captures so far, the present depth of
nesting, the number of nodes entered so far, whether a limit has ended the run, and the trace, if
one is kept. -/
structure State where
  position : Nat
  failure : Option Failure := none
  captures : Array (Option Span)
  depth : Nat := 0
  steps : Nat := 0
  aborted : Bool := false
  trace : Option Trace := none
deriving Repr, DecidableEq

namespace State

def initial (grammar : Grammar) (position : Nat) (trace : Option Trace) : State where
  position := position
  captures := Array.replicate grammar.captureNames.size none
  trace := trace

def rewind (state : State) (position : Nat) : State := { state with position := position }

def accept (state : State) (count : Nat) : Option Span × State :=
  (some ⟨state.position, state.position + count⟩,
    { state with position := state.position + count })

def fail (state : State) (kind : FailureKind) (node : Nat) : Option Span × State :=
  (none, { state with failure := some ⟨kind, node, state.position⟩ })

def keep (state : State) (slot : Nat) (span : Span) : State :=
  { state with captures := state.captures.setIfInBounds slot (some span) }

/-- The number of steps in the trace, which is the index of the next one. -/
def traceSize (state : State) : Nat := (state.trace.map Trace.size).getD 0

def enter (state : State) (node : Nat) : State :=
  { state with
    steps := state.steps + 1
    trace := state.trace.map (·.enter ⟨node, state.position, state.depth, .pending⟩) }

@[simp] theorem steps_enter (state : State) (node : Nat) :
    (state.enter node).steps = state.steps + 1 := rfl

@[simp] theorem depth_enter (state : State) (node : Nat) :
    (state.enter node).depth = state.depth := rfl

/-- Complete the step of a node, which stands at `index` in the trace. -/
def leave (state : State) (index : Nat) (result : Option Span) : State :=
  let verdict := Verdict.ofResult result state.failure
  { state with trace := state.trace.map (·.leave index verdict) }

def descend (state : State) : State := { state with depth := state.depth + 1 }

def ascend (state : State) : State := { state with depth := state.depth - 1 }

def abort (state : State) (limit : Limit) (node : Nat) : State :=
  { (state.fail (.limitExceeded limit) node).2 with aborted := true }

end State
end Peg
