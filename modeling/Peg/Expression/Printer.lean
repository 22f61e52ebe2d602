import Peg.Expression.Basic
import Peg.Text.Quoted

/-! Expressions in writing. Sequences group to the left and choices to the right, and a sequence
binds tighter than a choice; parentheses stand only where the grouping differs. A repeat count is
written after a literal or a group alone, because it takes no other operator beside it. -/

namespace Peg

def Modifier.symbol : Modifier → String
  | .oneOrMore => "+"
  | .optional => "?"
  | .negate => "-"

namespace Expression

def isLiteral : Expression → Bool
  | .literal _ => true
  | _ => false

def isChoice : Expression → Bool
  | .choice _ _ => true
  | _ => false

def isSequence : Expression → Bool
  | .sequence _ _ => true
  | _ => false

/-- Whether a modifier can be written directly after an expression. -/
def isTerm : Expression → Bool
  | .literal _ | .modified _ _ => true
  | _ => false

def group (wrapped : Bool) (text : String) : String :=
  if wrapped then "(" ++ text ++ ")" else text

def render : Expression → String
  | .literal text => Text.Quoted.encode text
  | .modified inner modifier => group (!inner.isTerm) inner.render ++ modifier.symbol
  | .times inner count => group (!inner.isLiteral) inner.render ++ s!" x{count}"
  | .sequence left right =>
    group left.isChoice left.render ++ " then "
      ++ group (right.isChoice || right.isSequence) right.render
  | .choice left right => group left.isChoice left.render ++ " or " ++ right.render

end Expression
end Peg
