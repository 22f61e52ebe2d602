import Peg.Expression.Parser
import Peg.Expression.Printer
import Peg.Matching.Event

/-! The pattern graph of an expression. Parts come before the whole and left before right, so an
expression always has the same graph. -/

namespace Peg

/-- Why there is no grammar for a text: it spells no expression, or the expression has no graph. -/
inductive PatternError where
  | text (error : SyntaxError)
  | graph (error : BuildError)
deriving Repr, DecidableEq

def PatternError.message : PatternError → String
  | .text error => error.message
  | .graph error => error.message

/-- Whether the text is at fault, and not the graph of the expression. -/
def PatternError.isExpressionError : PatternError → Bool
  | .text (.located _ _) | .text (.unexpectedEnd _) => true
  | .text (.halted _) | .graph _ => false

namespace Expression

/-- Append the nodes of an expression of at most the given height. -/
def emit : Expression → Nat → CheckedDrafting Nat
  | _, 0 => throw .nestedTooDeeply
  | .literal text, _ + 1 => Draft.literal text .sensitive
  | .modified inner modifier, room + 1 => do
    let node ← inner.emit room
    match modifier with
    | .oneOrMore => Draft.oneOrMore node
    | .optional => Draft.optional node
    | .negate => Draft.negate node
  | .times inner count, room + 1 => do Draft.times (← inner.emit room) count
  | .sequence left right, room + 1 => do Draft.sequence (← left.emit room) (← right.emit room)
  | .choice left right, room + 1 => do Draft.choice (← left.emit room) (← right.emit room)

def draft (expression : Expression) : CheckedDrafting Nat := expression.emit maxHeight

def compile (expression : Expression) : Except BuildError Grammar :=
  match expression.draft.run {} with
  | (.ok root, draft) => draft.seal root
  | (.error error, _) => .error error

/-- What appending an expression reports, once the draft has `size` nodes. -/
def compiled (expression : Expression) (size : Nat) : Event := .compiled expression.render size

end Expression

def Grammar.ofText (text : String) : Except PatternError Grammar := do
  let expression ← (Expression.parse text).mapError .text
  expression.compile.mapError .graph

end Peg
