import Peg.Matching.Outcome

/-! The repetitions of a span, one at a time. -/

namespace Peg

/-- A span whose inner node is matched when the next repetition is asked for. It is finished by the
first repetition that fails or does not move on. -/
structure Repetitions where
  setting : Setting
  source : Source
  inner : Nat
  state : State
  finished : Bool := false

namespace Repetitions

def rest (repetitions : Repetitions) : Source :=
  repetitions.source.seek repetitions.state.position

def finish (repetitions : Repetitions) : Repetitions := { repetitions with finished := true }

def next (repetitions : Repetitions) : Except Halt (Option Match × Repetitions) :=
  if repetitions.finished then .ok (none, repetitions)
  else
    let before := repetitions.state.position
    match repetitions.setting.evaluate repetitions.inner repetitions.state with
    | .error halt => .error halt
    | .ok (result, after) =>
      let moved := { repetitions with state := after }
      match result with
      | some span =>
        if before < span.stop then .ok (some (Match.ofSpan moved.source none span), moved)
        else .ok (none, moved.finish)
      | none => .ok (none, moved.finish)

end Repetitions

namespace Grammar

/-- The inner node of the span that a node stands for, looked up through at most `rules` rules. -/
def spanInner? (grammar : Grammar) : Nat → Nat → Option Nat
  | 0, _ => none
  | rules + 1, id =>
    match grammar.node? id with
    | some (.span inner) => some inner
    | some (.rule _ target) => grammar.spanInner? rules target
    | _ => none

/-- The repetitions of a span from the position of a source. A chain of rules that is longer than
the grammar is a circle and leads to no span. -/
def repetitions (grammar : Grammar) (limits : Limits) (node : Nat) (source : Source)
    (trace : Option Trace) : Except BuildError Repetitions :=
  match grammar.spanInner? (grammar.size + 1) node with
  | some inner =>
    .ok {
      setting := ⟨grammar, source.scalars, limits⟩
      source := source
      inner := inner
      state := State.initial grammar source.position trace }
  | none => .error (.notSpan node)

end Grammar
end Peg
