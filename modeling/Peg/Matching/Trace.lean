import Peg.Matching.Failure
import Peg.Text.Span

/-! A log of attempted nodes. A step is appended when a node is entered and completed when the node
is left, so a compound node stands before the nodes that it tried. -/

namespace Peg

inductive Verdict where
  | pending
  | matched (stop : Nat)
  | failed (kind : FailureKind)
deriving Repr, DecidableEq

/-- The verdict on an attempt that ended with a result, the latest failure being known. -/
def Verdict.ofResult (result : Option Span) (failure : Option Failure) : Verdict :=
  match result, failure with
  | some span, _ => .matched span.stop
  | none, some failure => .failed failure.kind
  | none, none => .pending

/-- An attempted node with the position and the depth of nesting at which it was entered. -/
structure Step where
  node : Nat
  position : Nat
  depth : Nat
  verdict : Verdict := .pending
deriving Repr, DecidableEq

namespace Step

def stop? (step : Step) : Option Nat :=
  match step.verdict with
  | .matched stop => some stop
  | _ => none

def failure? (step : Step) : Option FailureKind :=
  match step.verdict with
  | .failed kind => some kind
  | _ => none

def isMatch (step : Step) : Bool := step.stop?.isSome

end Step

structure Trace where
  steps : Array Step := #[]
deriving Repr, DecidableEq

namespace Trace

def size (trace : Trace) : Nat := trace.steps.size

def isEmpty (trace : Trace) : Bool := trace.steps.isEmpty

def get? (trace : Trace) (index : Nat) : Option Step := trace.steps[index]?

def failures (trace : Trace) : Array Step := trace.steps.filter (!·.isMatch)

/-- Append a step whose end is still open. -/
def enter (trace : Trace) (step : Step) : Trace := ⟨trace.steps.push step⟩

def leave (trace : Trace) (index : Nat) (verdict : Verdict) : Trace :=
  ⟨trace.steps.modify index fun step => { step with verdict := verdict }⟩

/-- Five columns for the position, two for each level of nesting, the node, and how it ended. -/
def renderStep (grammar : Grammar) (step : Step) : String :=
  let position := toString step.position
  let indent := String.ofList (List.replicate (5 - position.length) ' ') ++ position ++ " "
    ++ String.ofList (List.replicate (2 * step.depth) ' ')
  let ending := match step.verdict with
    | .pending => " !! None"
    | .matched stop => s!" => {step.position}..{stop}"
    | .failed (.limitExceeded limit) => s!" !! LimitExceeded ({limit.name})"
    | .failed kind => s!" !! {kind.name}"
  indent ++ grammar.describe step.node ++ ending ++ "\n"

def render (trace : Trace) (grammar : Grammar) : String :=
  String.join (trace.steps.toList.map (renderStep grammar))

end Trace
end Peg
