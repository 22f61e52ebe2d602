import Peg.Expression.Error
import Peg.Expression.TokenGrammar
import Peg.Matching.Outcome

/-! Reading the tokens of an expression by runs of the token graph. -/

namespace Peg.Lexer

/-- The position behind the white space at a position. -/
def skipSpace (source : Source) (position : Nat) : Except SyntaxError Nat :=
  match TokenGrammar.grammar.consumeNode TokenGrammar.parts.space (source.seek position) none with
  | .error halt => .error (.halted halt)
  | .ok run => .ok run.source.position

def unexpected (source : Source) (position : Nat) : SyntaxError :=
  match source.scalars[position]? with
  | some '"' => .located .unclosedLiteral (source.location position)
  | some c => .located (.unexpectedChar c) (source.location position)
  | none => .unexpectedEnd .token

def literal (source : Source) (found : Match) : Except SyntaxError Token :=
  match Text.Quoted.decodeFrom (found.size - 1) 1 (found.value.toList.drop 1) with
  | .ok text => .ok (.literal (String.ofList text))
  | .error (offset, c) =>
    .error (.located (.unsupportedEscape c) (source.location (found.span.start + offset)))

def decimal (digits : List Char) : Nat :=
  digits.foldl (fun value c => 10 * value + (c.toNat - '0'.toNat)) 0

/-- A word is a keyword or a repeat count in any case, or else a bare word. Counts are numbers of 64
bits. -/
def word (source : Source) (found : Match) : Except SyntaxError Token :=
  match found.value.toList.flatMap Unicode.lowercase with
  | ['t', 'h', 'e', 'n'] => .ok .then_
  | ['o', 'r'] => .ok .or_
  | 'x' :: digits =>
    if !digits.isEmpty && digits.all Char.isDigit then
      if decimal digits < UInt64.size then .ok (.times (decimal digits))
      else
        .error (.located (.countTooLarge (String.ofList digits))
          (source.location found.span.start))
    else .ok (.word found.value)
  | _ => .ok (.word found.value)

def symbol (found : Match) : Token :=
  match found.value with
  | "+" => .plus
  | "?" => .question
  | "-" => .minus
  | "(" => .leftParen
  | _ => .rightParen

/-- The token at a position, its span, and the position that its run has come to. Of the capture
slots, the one of the token that was found is the only one that is set. -/
def token (source : Source) (position : Nat) : Except SyntaxError (Token × Span × Nat) :=
  match TokenGrammar.grammar.consumeNode TokenGrammar.parts.token (source.seek position) none with
  | .error halt => .error (.halted halt)
  | .ok run =>
    let outcome := run.outcome
    if outcome.isSuccess then
      match outcome.capture? TokenGrammar.parts.literal,
        outcome.capture? TokenGrammar.parts.word, outcome.capture? TokenGrammar.parts.symbol with
      | some found, _, _ => (literal source found).map (·, found.span, outcome.position)
      | none, some found, _ => (word source found).map (·, found.span, outcome.position)
      | none, none, some found => .ok (symbol found, found.span, outcome.position)
      | none, none, none => .error (unexpected source position)
    else .error (unexpected source position)

/-- The place of a position, and the place from which to count on afterwards. Lines and columns are
counted on from `located`, the place of the token before. A position that lies before it is looked
up in the whole text, and the counting does not go back. -/
def locate (source : Source) (located : Location) (position : Nat) : Location × Location :=
  let position := min position source.size
  if position < located.index then (source.location position, located)
  else
    let here := located.after (source.slice ⟨located.index, position⟩).toList
    (here, here)

/-- The tokens from a position on. If a run left no less of the text than there was, the loop would go
on for ever. -/
def tokensFrom (source : Source) (position : Nat) (located : Location) :
    Except SyntaxError (List Lexeme) :=
  match skipSpace source position with
  | .error error => .error error
  | .ok start =>
    if source.size ≤ start then .ok []
    else
      match token source start with
      | .error error => .error error
      | .ok (found, span, next) =>
        let place := locate source located span.start
        if _ : source.size - next < source.size - position then
          match tokensFrom source next place.2 with
          | .error error => .error error
          | .ok rest => .ok (⟨found, place.1.range span.size⟩ :: rest)
        else .error (.halted .outOfFuel)
termination_by source.size - position

def tokens (text : String) : Except SyntaxError (List Lexeme) :=
  tokensFrom (Source.ofString text) 0 {}

end Peg.Lexer
