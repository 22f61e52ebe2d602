import Peg.Grammar.Node

/-! What can be wrong with a pattern graph. -/

namespace Peg

inductive BuildError where
  /-- A declared rule has no body. -/
  | undefined (name : String)
  /-- A declared rule is given a second body. -/
  | redefined (name : String)
  /-- A body is given to a node that was not declared as a rule. -/
  | notDeclared (node : Nat)
  /-- A body is given to a node that does not exist. -/
  | notInDraft (node : Nat)
  /-- A node that does not exist is referred to. -/
  | notInGrammar (node : Nat)
  /-- A node other than a rule refers to itself or to a later node. -/
  | notBefore (node child : Nat)
  /-- A pattern is repeated zero times. -/
  | emptyRepeat
  /-- Repetitions are asked of a node that does not stand for a span. -/
  | notSpan (node : Nat)
  /-- An expression is higher than a graph is built for. -/
  | nestedTooDeeply
deriving Repr, DecidableEq

namespace BuildError

def message : BuildError → String
  | .undefined name => s!"Pattern \"{name}\" is declared but never defined."
  | .redefined name => s!"Pattern \"{name}\" is already defined."
  | .notDeclared node => s!"Node #{node} is not a declared pattern."
  | .notInDraft node => s!"Node #{node} does not belong to this builder."
  | .notInGrammar node => s!"Node #{node} does not belong to this grammar."
  | .notBefore node child => s!"Node #{node} refers to node #{child}, which does not precede it."
  | .emptyRepeat => "The repeat count must be greater than 0."
  | .notSpan node => s!"Node #{node} is not a span pattern."
  | .nestedTooDeeply => "The expression is nested too deeply."

end BuildError
end Peg
