import Peg.Matching.Run

/-! What a run reports about itself. -/

namespace Peg

inductive Level where
  | trace
  | debug
deriving Repr, DecidableEq

def Level.name : Level → String
  | .trace => "TRACE"
  | .debug => "DEBUG"

inductive Event where
  | started (node position : Nat)
  | matched (node : Nat) (span : Span)
  | failed (node : Nat) (failure : Option Failure)
  | aborted (limit : Limit) (node position : Nat)
  | compiled (expression : String) (nodes : Nat)
deriving Repr, DecidableEq

namespace Event

def level : Event → Level
  | .started _ _ | .matched _ _ | .failed _ _ => .trace
  | .aborted _ _ _ | .compiled _ _ => .debug

def message : Event → String
  | .started node position => s!"process start, node: {node}, position: {position}"
  | .matched node span => s!"process finish, node: {node}, span: {span.start}..{span.stop}"
  | .failed node (some failure) =>
    s!"process failed, node: {node}, error: {failure.kind.name}, position: {failure.position}"
  | .failed node none => s!"process failed, node: {node}, error: None, position: 0"
  | .aborted limit node position =>
    s!"process aborted, {limit.name} exceeded at node: {node}, position: {position}"
  | .compiled expression nodes => s!"compiled expression: {expression}, nodes: {nodes}"

def render (event : Event) : String := event.level.name ++ " " ++ event.message

end Event

/-- The report of an aborted run on its end: the failure that ended it is its last one. -/
def State.abortion (state : State) : List Event :=
  match state.aborted, state.failure with
  | true, some ⟨.limitExceeded limit, node, position⟩ => [.aborted limit node position]
  | _, _ => []

def Run.events (run : Run) : List Event :=
  let ending := match run.result with
    | some span => Event.matched run.node span
    | none => Event.failed run.node run.final.failure
  .started run.node run.start.position :: run.final.abortion ++ [ending]

end Peg
