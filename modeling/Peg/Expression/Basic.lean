/-! Expressions: patterns as they are written down, such as `"a" then "b"+ or "c" x3`. -/

namespace Peg

inductive Modifier where
  | oneOrMore
  | optional
  | negate
deriving Repr, DecidableEq

inductive Expression where
  | literal (text : String)
  | modified (inner : Expression) (modifier : Modifier)
  | times (inner : Expression) (count : Nat)
  | sequence (left right : Expression)
  | choice (left right : Expression)
deriving Repr, DecidableEq

namespace Expression

def height : Expression → Nat
  | .literal _ => 1
  | .modified inner _ | .times inner _ => inner.height + 1
  | .sequence left right | .choice left right => max left.height right.height + 1

/-- The greatest height of an expression that is read or compiled, and the greatest number of
groups that are open at once. -/
def maxHeight : Nat := 256

end Expression
end Peg
