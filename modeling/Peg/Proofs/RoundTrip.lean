import Peg.Proofs.Acceptance
import Peg.Proofs.ParsedTree
import Peg.Proofs.Spelling

/-! Writing an expression and reading it again. What is written spells the tokens from which the
parser reads the expression back, and what the parser reads is never too high to be read again. -/

namespace Peg.Proofs

/-- What is written next does not go on with a word. -/
def Apart (rest : List Char) : Prop := rest.head?.any CharClass.isBareWord = false

/-- The text spells the tokens before any others that stand apart. -/
def Writes (text : String) (tokens : List Token) : Prop :=
  ∀ rest others, Apart rest → Spells rest others → Spells (text.toList ++ rest) (tokens ++ others)

theorem apart_cons {c : Char} (ends : CharClass.isBareWord c = false) (rest : List Char) : Apart (c :: rest) := ends

section Writing
variable {text : String} {tokens : List Token}

theorem Spells.keyword {chars rest : List Char} {token : Token} {others : List Token}
    (starts : ∀ rest, Apart rest → Starts chars token rest) (spells : Spells rest others) :
    Apart (' ' :: (chars ++ ' ' :: rest)) ∧ Spells (' ' :: (chars ++ ' ' :: rest)) (token :: others) := by
  have blank : Unicode.isWhiteSpace ' ' = true := by decide +kernel
  have ends : CharClass.isBareWord ' ' = false := by decide +kernel
  exact ⟨apart_cons ends _, .space blank (.token (starts _ (apart_cons ends _)) (.space blank spells))⟩

theorem Writes.group (writes : Writes text tokens) (wrapped : Bool) :
    Writes (Expression.group wrapped text) (Expression.enclose wrapped tokens) := by
  cases wrapped with
  | false => exact writes
  | true =>
    intro rest others _ spells
    have close : (')', Token.rightParen) ∈ symbols := by decide
    have inner := writes _ _ (apart_cons (symbol_apart _ close).2.1 rest) (.token (starts_symbol close) spells)
    have whole := Spells.token (starts_symbol (by decide : ('(', Token.leftParen) ∈ symbols)) inner
    simpa [Expression.group, Expression.enclose] using whole

theorem writes_render {expression : Expression} (counted : expression.Counted) :
    Writes expression.render expression.tokens := by
  induction expression with
  | literal text =>
    intro rest others _ spells
    exact .token (starts_literal text rest) spells
  | modified inner modifier ih =>
    intro rest others _ spells
    obtain ⟨c, single, symbol⟩ : ∃ c, modifier.symbol.toList = [c] ∧ (c, modifier.token) ∈ symbols := by
      cases modifier <;> exact ⟨_, rfl, by decide⟩
    have whole := (ih counted).group (!inner.isTerm) _ _ (apart_cons (symbol_apart _ symbol).2.1 rest)
      (.token (starts_symbol symbol) spells)
    simpa [Expression.render, Expression.tokens, single] using whole
  | times inner count ih =>
    intro rest others apart spells
    have blank : Unicode.isWhiteSpace ' ' = true := by decide +kernel
    have whole := (ih counted.1).group (!inner.isLiteral) _ _ (apart_cons (by decide +kernel) _)
      (.space blank (.token (starts_times counted.2 apart) spells))
    have mark : (toString " x").toList = [' ', 'x'] := rfl
    simpa [Expression.render, Expression.tokens, mark] using whole
  | sequence left right ih ih' =>
    intro rest others apart spells
    have next := (ih' counted.2).group (right.isChoice || right.isSequence) rest others apart spells
    obtain ⟨ends, behind⟩ := Spells.keyword (fun _ => starts_then) next
    have whole := (ih counted.1).group left.isChoice _ _ ends behind
    simpa [Expression.render, Expression.tokens] using whole
  | choice left right ih ih' =>
    intro rest others apart spells
    obtain ⟨ends, behind⟩ := Spells.keyword (fun _ => starts_or) (ih' counted.2 rest others apart spells)
    have whole := (ih counted.1).group left.isChoice _ _ ends behind
    simpa [Expression.render, Expression.tokens] using whole

end Writing

section Reading
variable {source : Source} {token : Token}

/-- A repeat count is only read where it has 64 bits. -/
theorem word_counted {found : Match} (read : Lexer.word source found = .ok token) : token.Counted := by
  unfold Lexer.word at read
  split at read
  · cases read
    trivial
  · cases read
    trivial
  · split at read
    · split at read
      · next small =>
        cases read
        exact small
      · cases read
    · cases read
      trivial
  · cases read
    trivial

theorem literal_counted {found : Match} (read : Lexer.literal source found = .ok token) :
    token.Counted := by
  unfold Lexer.literal at read
  split at read
  · cases read
    trivial
  · cases read

theorem symbol_counted (found : Match) : (Lexer.symbol found).Counted := by
  unfold Lexer.symbol
  split <;> trivial

theorem ok_of_map {result : Except SyntaxError Token} {span found : Span} {next stop : Nat}
    (mapped : result.map (·, found, stop) = .ok (token, span, next)) : result = .ok token := by
  cases result with
  | error => cases mapped
  | ok =>
    cases mapped
    rfl

theorem token_counted {position next : Nat} {span : Span}
    (read : Lexer.token source position = .ok (token, span, next)) : token.Counted := by
  unfold Lexer.token at read
  split at read
  · cases read
  · dsimp only at read
    split at read
    · split at read
      · exact literal_counted (ok_of_map read)
      · exact word_counted (ok_of_map read)
      · cases read
        exact symbol_counted _
      · cases read
    · cases read

theorem tokensFrom_counted (position : Nat) (located : Location) :
    ∀ lexemes, Lexer.tokensFrom source position located = .ok lexemes →
      ∀ lexeme ∈ lexemes, lexeme.token.Counted := by
  fun_induction Lexer.tokensFrom source position located with
  | case1 | case3 | case4 | case6 =>
    intro lexemes read
    cases read
  | case2 =>
    intro lexemes read
    cases read
    intro lexeme impossible
    cases impossible
  | case5 _ _ _ _ _ _ _ _ token _ _ rest others ih =>
    intro lexemes read
    cases read
    exact List.forall_mem_cons.mpr ⟨token_counted token, ih rest others⟩

end Reading

theorem parse_render {expression : Expression} (counted : expression.Counted) :
    (expression.height ≤ Expression.maxHeight → Expression.parse expression.render = .ok expression) ∧
    (¬ expression.height ≤ Expression.maxHeight →
      ∃ location, Expression.parse expression.render = .error (.located .nestedTooDeeply location)) := by
  have spells := writes_render counted [] [] rfl .done
  rw [List.append_nil, List.append_nil] at spells
  obtain ⟨lexemes, read, same⟩ := spells.tokens
  have parsed : Expression.parse expression.render = Expression.ofTokens lexemes := by
    rw [Expression.parse, read]
    rfl
  rw [parsed]
  exact ofTokens_tokens same

theorem parsed_valid {text : String} {expression : Expression} (parsed : Expression.parse text = .ok expression) :
    expression.height ≤ Expression.maxHeight ∧ expression.Counted := by
  rw [Expression.parse] at parsed
  cases read : Lexer.tokens text with
  | error =>
    rw [read] at parsed
    cases parsed
  | ok lexemes =>
    rw [read] at parsed
    exact ofTokens_valid (tokensFrom_counted 0 {} lexemes read) parsed

/-- Reading what was written gives the expression back exactly up to the greatest height, and a
higher one is refused for its nesting alone. What has been read once can always be read again. -/
theorem parse_render_iff_low :
    (∀ expression : Expression, expression.Counted →
      (expression.height ≤ 256 → Expression.parse expression.render = .ok expression) ∧
      (256 < expression.height → ∃ location,
        Expression.parse expression.render = .error (.located .nestedTooDeeply location))) ∧
    SyntaxFault.nestedTooDeeply.message = "The expression is nested too deeply." ∧
    ∀ (text : String) (expression : Expression), Expression.parse text = .ok expression →
      Expression.parse expression.render = .ok expression := by
  refine ⟨?_, rfl, ?_⟩
  · intro expression counted
    obtain ⟨low, high⟩ := parse_render counted
    exact ⟨low, fun above => high (Nat.not_le_of_lt above)⟩
  · intro text expression parsed
    obtain ⟨low, counted⟩ := parsed_valid parsed
    exact (parse_render counted).1 low

/-- Quotes, backslashes, line feeds and an empty repetition come back. One more `?` than there is
height left does not. -/
theorem round_trip_at_bound :
    let low : Expression := .sequence (.times (.literal "\"é\\\n") 0) (.choice (.literal "a") (.literal ""))
    let high : Expression := Nat.repeat (Expression.modified · .optional) 256 (.literal "a")
    low.Counted ∧ low.height ≤ 256 ∧ high.Counted ∧ 256 < high.height ∧
      Expression.parse low.render = .ok low ∧
      (∃ location, Expression.parse high.render = .error (.located .nestedTooDeeply location)) ∧
      ∀ text, Expression.parse text = .ok low → Expression.parse low.render = .ok low := by
  intro low high
  have counted : low.Counted := ⟨⟨trivial, by decide⟩, trivial, trivial⟩
  have counted' : high.Counted := trivial
  have below : low.height ≤ 256 := by decide
  have above : 256 < high.height := by decide +kernel
  obtain ⟨reads, _, again⟩ := parse_render_iff_low
  exact ⟨counted, below, counted', above, (reads low counted).1 below, (reads high counted').2 above,
    fun text => again text low⟩

end Peg.Proofs
