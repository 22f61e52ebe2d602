import Peg.Expression.Token
import Peg.Matching.Eval

/-! Why an expression is not read: what can be wrong with its text, and what can keep its tokens from
being found at all. -/

namespace Peg

inductive Expectation where
  | token
  | joiner
  | term
  /-- A term with a repeat count was expected to have no other operator. -/
  | onlyCount
  /-- A modified term was expected to have no repeat count. -/
  | onlyModifiers
  | closingParen
deriving Repr, DecidableEq

def Expectation.message : Expectation → String
  | .token => "Expect a token"
  | .joiner => "Expect keyword \"then\" or \"or\""
  | .term => "Expect a quoted literal or a group"
  | .onlyCount =>
    "A term with a repeat count can not take other modifiers, group the term first"
  | .onlyModifiers => "A modified term can not take a repeat count, group the term first"
  | .closingParen => "Expect token: right parenthese"

inductive SyntaxFault where
  | unclosedLiteral
  | unexpectedChar (c : Char)
  | unsupportedEscape (c : Char)
  | countTooLarge (digits : String)
  | nestedTooDeeply
  | unclosedGroup
  | unexpectedToken (expected : Expectation) (found : Token)
deriving Repr, DecidableEq

def SyntaxFault.message : SyntaxFault → String
  | .unclosedLiteral => "Incomplete literal, missing the closing quote."
  | .unexpectedChar c => s!"Unexpected char '{c}'."
  | .unsupportedEscape c => s!"Unsupported escape char '\\{c}'."
  | .countTooLarge digits => s!"The repeat count \"{digits}\" is too large."
  | .nestedTooDeeply => "The expression is nested too deeply."
  | .unclosedGroup => Expectation.closingParen.message ++ "."
  | .unexpectedToken expected found => s!"{expected.message}, found {found.describe}."

inductive SyntaxError where
  | located (fault : SyntaxFault) (location : Location)
  /-- The text ended where something was expected. -/
  | unexpectedEnd (expected : Expectation)
  /-- A run of the token graph has no result. The text is not at fault. -/
  | halted (halt : Halt)
deriving Repr, DecidableEq

def SyntaxError.message : SyntaxError → String
  | .located fault location => s!"{fault.message} At {location.render}."
  | .unexpectedEnd expected => s!"Unexpected end of expression. {expected.message}."
  | .halted halt => halt.message

end Peg
