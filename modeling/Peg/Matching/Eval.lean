import Peg.Matching.State
import Peg.Text.Source

/-! Evaluating a node at the present position. The evaluation of a node calls that of the nodes it
refers to, and rules may lead back to the same node, so the nesting is bounded by fuel. A pattern
that does not match leaves the position where it was. -/

namespace Peg

/-- Why an evaluation has no result: its nesting was deeper than the fuel, or it came upon a number
that is no node of the grammar. -/
inductive Halt where
  | outOfFuel
  | unknownNode (id : Nat)
deriving Repr, DecidableEq

def Halt.message : Halt → String
  | .outOfFuel => "The evaluation has no end."
  | .unknownNode id => (BuildError.notInGrammar id).message

abbrev Result := Except Halt (Option Span × State)

structure Setting where
  grammar : Grammar
  scalars : Array Char
  limits : Limits

namespace Eval

/-- Why a literal is not found at a position, if it is not. A wrong character counts before the end
of the text does. -/
def literalFailure (casing : CaseRule) (scalars : Array Char) :
    List Char → Nat → Option FailureKind
  | [], _ => none
  | expected :: rest, position =>
    match scalars[position]? with
    | none => some .endOfSource
    | some actual =>
      if casing.agrees expected actual then literalFailure casing scalars rest (position + 1)
      else some .mismatch

def literal (scalars : Array Char) (id : Nat) (text : String) (casing : CaseRule)
    (state : State) : Option Span × State :=
  match literalFailure casing scalars text.toList state.position with
  | some kind => state.fail kind id
  | none => state.accept text.length

def checker (scalars : Array Char) (id : Nat) (test : Char → Bool) (state : State) :
    Option Span × State :=
  match scalars[state.position]? with
  | none => state.fail .endOfSource id
  | some c => if test c then state.accept 1 else state.fail .mismatch id

/-- All or nothing: a failure of either side goes back to `start`. -/
def sequence (left right : State → Result) (start : Nat) (state : State) : Result :=
  match left state with
  | .error halt => .error halt
  | .ok (none, after) => .ok (none, after.rewind start)
  | .ok (some _, middle) =>
    match right middle with
    | .error halt => .error halt
    | .ok (none, after) => .ok (none, after.rewind start)
    | .ok (some last, after) => .ok (some ⟨start, last.stop⟩, after)

def choice (left right : State → Result) (start : Nat) (state : State) : Result :=
  match left state with
  | .error halt => .error halt
  | .ok (some span, after) => .ok (some span, after)
  | .ok (none, after) => right (after.rewind start)

/-- A match of the inner node is a failure, and its failure is an empty match. An aborted run stays
aborted. -/
def negate (inner : State → Result) (id start : Nat) (state : State) : Result :=
  match inner state with
  | .error halt => .error halt
  | .ok (some _, after) => .ok ((after.rewind start).fail .forbidden id)
  | .ok (none, after) =>
    if after.aborted then .ok (none, after) else .ok (some (Span.empty start), after)

/-- A failure of the inner node is an empty match, unless the run was aborted. -/
def optional (inner : State → Result) (start : Nat) (state : State) : Result :=
  match inner state with
  | .error halt => .error halt
  | .ok (some span, after) => .ok (some span, after)
  | .ok (none, after) =>
    if after.aborted then .ok (none, after)
    else .ok (some (Span.empty start), after.rewind start)

def times (inner : State → Result) (start : Nat) : Nat → State → Result
  | 0, state => .ok (some ⟨start, state.position⟩, state)
  | count + 1, state =>
    match inner state with
    | .error halt => .error halt
    | .ok (none, after) => .ok (none, after.rewind start)
    | .ok (some _, after) => times inner start count after

/-- The inner node until it fails or matches without moving on. Every round but the last moves on,
so `rounds` need not exceed the number of characters left by more than one. -/
def span (inner : State → Result) (start : Nat) : Nat → State → Result
  | 0, _ => .error .outOfFuel
  | rounds + 1, state =>
    let before := state.position
    match inner state with
    | .error halt => .error halt
    | .ok (some last, after) =>
      if before < last.stop then span inner start rounds after
      else .ok (some ⟨start, after.position⟩, after)
    | .ok (none, after) =>
      if after.aborted then .ok (none, after.rewind start)
      else .ok (some ⟨start, after.position⟩, after)

/-- A match of the inner node is kept in a slot, whatever becomes of the nodes around it. -/
def capture (inner : State → Result) (slot : Nat) (state : State) : Result :=
  match inner state with
  | .error halt => .error halt
  | .ok (none, after) => .ok (none, after)
  | .ok (some found, after) => .ok (some found, after.keep slot found)

/-- Evaluate a node whose parts are evaluated by `visit`. -/
def node (setting : Setting) (visit : Nat → State → Result) (id : Nat) (node : Node)
    (state : State) : Result :=
  match node with
  | .literal text casing => .ok (literal setting.scalars id text casing state)
  | .checker _ test => .ok (checker setting.scalars id test state)
  | .sequence left right => sequence (visit left) (visit right) state.position state
  | .choice left right => choice (visit left) (visit right) state.position state
  | .negate inner => negate (visit inner) id state.position state
  | .optional inner => optional (visit inner) state.position state
  | .times inner count => times (visit inner) state.position count state
  | .span inner =>
    span (visit inner) state.position (setting.scalars.size - state.position + 1) state
  | .capture inner slot => capture (visit inner) slot state
  | .rule _ target => visit target state

/-- Enter a node, evaluate it unless that exceeds a limit, and leave it. Nothing is entered any
more once the run is aborted. -/
def step (setting : Setting) (visit : Nat → State → Result) (id : Nat) (state : State) : Result :=
  if state.aborted then .ok (none, state)
  else
    let index := state.traceSize
    let entered := state.enter id
    match setting.limits.exceeded entered.steps entered.depth with
    | some limit => .ok (none, (entered.abort limit id).leave index none)
    | none =>
      match setting.grammar.node? id with
      | none => .error (.unknownNode id)
      | some found =>
        match node setting visit id found entered.descend with
        | .error halt => .error halt
        | .ok (result, after) => .ok (result, after.ascend.leave index result)

end Eval

def eval (setting : Setting) : Nat → Nat → State → Result
  | 0 => fun _ _ => .error .outOfFuel
  | fuel + 1 => Eval.step setting (eval setting fuel)

/-- A nesting that no evaluation with a result exceeds. Under a limit the limit bounds it. Without
one, a nesting of more levels than there are pairs of a node and a position would meet one pair
twice, and then again and again. -/
def Setting.fuel (setting : Setting) : Nat :=
  if 0 < setting.limits.maxDepth then setting.limits.maxDepth + 1
  else if 0 < setting.limits.maxSteps then setting.limits.maxSteps + 1
  else setting.grammar.size * (setting.scalars.size + 1) + 1

/-- Evaluate a node. Without limits an evaluation that never ends is out of fuel. -/
def Setting.evaluate (setting : Setting) (id : Nat) (state : State) : Result :=
  eval setting setting.fuel id state

end Peg
