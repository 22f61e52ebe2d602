import Peg.Matching.Run

/-! The tokens of expressions as a pattern graph: expressions are read by the same evaluation that
they describe. -/

namespace Peg

structure TokenParts where
  space : Nat
  token : Nat
  literal : Nat
  word : Nat
  symbol : Nat
deriving Repr, DecidableEq

namespace TokenGrammar

/-- A literal is a quote, then pairs of a backslash and any character and single other characters,
then a quote. A word is a run of letters, numbers and underscores. -/
def draft : Drafting TokenParts := do
  let blank ← Draft.checker "whitespace" Unicode.isWhiteSpace
  let space ← Draft.span blank
  let quote ← Draft.literal "\"" .sensitive
  let backslash ← Draft.literal "\\" .sensitive
  let anything ← Draft.preset .any
  let escape ← Draft.sequence backslash anything
  let plain ← Draft.checker "string_char" fun c => c != '"' && c != '\\'
  let element ← Draft.choice escape plain
  let body ← Draft.span element
  let opened ← Draft.sequence quote body
  let quoted ← Draft.sequence opened quote
  let (literalNode, literal) ← Draft.capture quoted "literal"
  let wordChar ← Draft.checker "word_char" CharClass.isBareWord
  let wordChars ← Draft.oneOrMore wordChar
  let (wordNode, word) ← Draft.capture wordChars "word"
  let symbolChar ← Draft.charSet ['+', '?', '-', '(', ')']
  let (symbolNode, symbol) ← Draft.capture symbolChar "symbol"
  let others ← Draft.choice wordNode symbolNode
  let token ← Draft.choice literalNode others
  return ⟨space, token, literal, word, symbol⟩

def drafted : TokenParts × Draft := draft.run {}

def parts : TokenParts := drafted.1

theorem drafted_seals : (drafted.2.seal parts.token).toBool = true := by
  decide +kernel

def grammar : Grammar :=
  match result : drafted.2.seal parts.token with
  | .ok grammar => grammar
  | .error _ => absurd drafted_seals (by simp [result, Except.toBool])

end TokenGrammar
end Peg
