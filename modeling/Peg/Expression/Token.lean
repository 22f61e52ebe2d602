import Peg.Text.Location

/-! The tokens of expressions. -/

namespace Peg

inductive Token where
  /-- A quoted literal without its quotes and escapes. -/
  | literal (text : String)
  /-- A bare word that is neither a keyword nor a repeat count. -/
  | word (text : String)
  | then_
  | or_
  | times (count : Nat)
  | plus
  | question
  | minus
  | leftParen
  | rightParen
deriving Repr, DecidableEq

/-- A token as error messages call it. -/
def Token.describe : Token → String
  | .literal text => s!"literal \"{text}\""
  | .word text => s!"bare word \"{text}\""
  | .then_ => "keyword \"then\""
  | .or_ => "keyword \"or\""
  | .times count => s!"repeat count \"x{count}\""
  | .plus => "\"+\""
  | .question => "\"?\""
  | .minus => "\"-\""
  | .leftParen => "\"(\""
  | .rightParen => "\")\""

/-- A token and the range of the text it was read from. -/
structure Lexeme where
  token : Token
  range : Location
deriving Repr, DecidableEq

end Peg
