import Peg.Character.Case

/-! The nodes of a pattern graph. A node names the nodes it is made of by their places in the
graph, so a pattern may be shared, and may refer to itself through a rule. Capture slots are
numbered in the same way. -/

namespace Peg

inductive Node where
  /-- The characters of a text, one after the other. -/
  | literal (text : String) (casing : CaseRule)
  /-- One character that passes a test. -/
  | checker (name : String) (test : Char → Bool)
  /-- Both patterns, one after the other. -/
  | sequence (left right : Nat)
  /-- The first of two patterns that matches. -/
  | choice (left right : Nat)
  /-- Nothing, provided that the pattern does not match here. -/
  | negate (inner : Nat)
  /-- The pattern or nothing. -/
  | optional (inner : Nat)
  /-- The pattern a fixed number of times. -/
  | times (inner : Nat) (count : Nat)
  /-- The pattern as often as it matches and moves on. -/
  | span (inner : Nat)
  /-- The pattern, whose match is kept in a slot. -/
  | capture (inner : Nat) (slot : Nat)
  /-- A name for another node. -/
  | rule (name : String) (target : Nat)

namespace Node

def children : Node → List Nat
  | .literal _ _ | .checker _ _ => []
  | .sequence left right | .choice left right => [left, right]
  | .negate inner | .optional inner | .times inner _ | .span inner | .capture inner _ => [inner]
  | .rule _ target => [target]

def isRule : Node → Bool
  | .rule _ _ => true
  | _ => false

def slot? : Node → Option Nat
  | .capture _ slot => some slot
  | _ => none

/-- A node fits its place in a graph when everything it refers to is in the graph and, unless it is
a rule, stands before it. -/
def Fits (size place : Nat) (node : Node) : Prop :=
  ∀ child ∈ node.children, child < size ∧ (node.isRule = false → child < place)

end Node
end Peg
