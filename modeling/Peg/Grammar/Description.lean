import Peg.Grammar.Sealed
import Peg.Text.Quoted

/-! Nodes in words, for error messages and traces. Compound nodes stand in parentheses, so that the
operators written after a pattern are unambiguous. A rule is written by its name alone, which is
also why a description ends: every other node refers to earlier nodes only. -/

namespace Peg.Grammar

theorem lt_of_mem_children (grammar : Grammar) {id child : Nat} {node : Node}
    (found : grammar.node? id = some node) (plain : node.isRule = false)
    (member : child ∈ node.children) : child < id :=
  (grammar.fits id node found child member).2 plain

def describe (grammar : Grammar) (id : Nat) : String :=
  match _ : grammar.node? id with
  | none => s!"#{id}"
  | some (.literal text .sensitive) => Text.Quoted.encode text
  | some (.literal text .insensitive) => Text.Quoted.encode text ++ "i"
  | some (.checker name _) => name
  | some (.sequence left right) =>
    "(" ++ grammar.describe left ++ " then " ++ grammar.describe right ++ ")"
  | some (.choice left right) =>
    "(" ++ grammar.describe left ++ " or " ++ grammar.describe right ++ ")"
  | some (.negate inner) => grammar.describe inner ++ "-"
  | some (.optional inner) => grammar.describe inner ++ "?"
  | some (.times inner count) => grammar.describe inner ++ s!" x{count}"
  | some (.span inner) => grammar.describe inner ++ "*"
  | some (.capture inner slot) =>
    match grammar.captureName? slot with
    | some name => name ++ ":" ++ grammar.describe inner
    | none => grammar.describe inner
  | some (.rule name _) => name
termination_by id
decreasing_by
  all_goals exact grammar.lt_of_mem_children ‹_› rfl (by simp [Node.children])

def describeNegated (grammar : Grammar) (id : Nat) : String :=
  match grammar.node? id with
  | some (.negate inner) => grammar.describe inner
  | _ => grammar.describe id

end Peg.Grammar
