import Peg.Expression.Basic
import Peg.Expression.Lexer
import Peg.Lookahead

/-! Reading an expression from its tokens. A choice is made of sequences, a sequence of terms, and a
term is a literal or a group with its operators. Groups are open to a fixed depth at most, and every
tree carries its height, which has the same bound. -/

namespace Peg

/-- The tokens that are left, and the range of the token before them. -/
structure Cursor where
  ahead : Lookahead Lexeme
  last : Location := {}
deriving Repr

structure Tree where
  expression : Expression
  height : Nat
deriving Repr, DecidableEq

abbrev Parse := StateT Cursor (Except SyntaxError)

namespace Parse

def peek : Parse (Option Token) := do
  return ((← get).ahead.peek 0).map Lexeme.token

def next : Parse (Option Token) := fun cursor =>
  match cursor.ahead.next with
  | (some lexeme, rest) => .ok (some lexeme.token, ⟨rest, lexeme.range⟩)
  | (none, rest) => .ok (none, { cursor with ahead := rest })

def skip : Parse Unit := do
  let _ ← next

def unexpected {α : Type} (expected : Expectation) : Parse α := do
  match (← get).ahead.peek 0 with
  | some lexeme => throw (.located (.unexpectedToken expected lexeme.token) lexeme.range.start)
  | none => throw (.unexpectedEnd expected)

def nestedTooDeeply {α : Type} : Parse α := do
  throw (.located .nestedTooDeeply (← get).last.start)

/-- A tree above others, the highest of which has the given height. -/
def grow (expression : Expression) (height : Nat) : Parse Tree :=
  if Expression.maxHeight ≤ height then nestedTooDeeply
  else return ⟨expression, height + 1⟩

def closeGroup : Parse Unit := do
  match ← next with
  | some .rightParen => return
  | some _ => throw (.located .unclosedGroup (← get).last.start)
  | none => throw (.unexpectedEnd .closingParen)

/-- A literal, or a group, if there is one that may still be opened. -/
def primary (group : Option (Parse Tree)) : Parse Tree := do
  match ← peek with
  | some (.literal text) =>
    skip
    return ⟨.literal text, 1⟩
  | some .leftParen =>
    skip
    match group with
    | none => nestedTooDeeply
    | some inner =>
      let tree ← inner
      closeGroup
      return tree
  | _ => unexpected .term

def modifier? : Token → Option Modifier
  | .plus => some .oneOrMore
  | .question => some .optional
  | .minus => some .negate
  | _ => none

def isOperator : Token → Bool
  | .times _ => true
  | token => (modifier? token).isSome

/-- Modifiers after a tree, at most `bound` of them. -/
def modifiers : Nat → Tree → Parse Tree
  | 0, tree => return tree
  | bound + 1, tree => do
    match ← peek with
    | some (.times _) => unexpected .onlyModifiers
    | some token =>
      match modifier? token with
      | some modifier =>
        skip
        modifiers bound (← grow (.modified tree.expression modifier) tree.height)
      | none => return tree
    | none => return tree

def term (bound : Nat) (group : Option (Parse Tree)) : Parse Tree := do
  let tree ← primary group
  match ← peek with
  | some (.times count) =>
    skip
    if (← peek).any isOperator then unexpected .onlyCount
    else grow (.times tree.expression count) tree.height
  | _ => modifiers bound tree

/-- Further terms of a sequence, at most `bound` of them, joined to the left. -/
def joinTerms (operand : Parse Tree) : Nat → Tree → Parse Tree
  | 0, left => return left
  | bound + 1, left => do
    match ← peek with
    | some .then_ =>
      skip
      let right ← operand
      joinTerms operand bound
        (← grow (.sequence left.expression right.expression) (max left.height right.height))
    | _ => return left

def sequence (bound : Nat) (group : Option (Parse Tree)) : Parse Tree := do
  joinTerms (term bound group) bound (← term bound group)

def alternatives (operand : Parse Tree) : Nat → Parse (List Tree)
  | 0 => return []
  | bound + 1 => do
    match ← peek with
    | some .or_ =>
      skip
      let tree ← operand
      return tree :: (← alternatives operand bound)
    | _ => return []

/-- Alternatives joined to the right. -/
def joinAlternatives : Tree → List Tree → Parse Tree
  | left, [] => return left
  | left, next :: others => do
    let right ← joinAlternatives next others
    grow (.choice left.expression right.expression) (max left.height right.height)

def choice (bound : Nat) (group : Option (Parse Tree)) : Parse Tree := do
  let first ← sequence bound group
  joinAlternatives first (← alternatives (sequence bound group) bound)

/-- An expression in which at most `room` groups are open at once. -/
def expression (bound : Nat) : Nat → Parse Tree
  | 0 => choice bound none
  | room + 1 => choice bound (some (expression bound room))

def whole (bound : Nat) : Parse Expression := do
  let tree ← expression bound Expression.maxHeight
  match ← peek with
  | some _ => unexpected .joiner
  | none => return tree.expression

end Parse

namespace Expression

/-- The expression that a list of tokens spells. A list of that length has no more operators than
it has tokens. -/
def ofTokens (tokens : List Lexeme) : Except SyntaxError Expression :=
  (Parse.whole tokens.length ⟨Lookahead.ofList 2 tokens, {}⟩).map (·.1)

def parse (text : String) : Except SyntaxError Expression := do
  ofTokens (← Lexer.tokens text)

end Expression
end Peg
