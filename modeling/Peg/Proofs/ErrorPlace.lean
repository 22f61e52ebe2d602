import Peg.Expression.Compile
import Peg.Proofs.Scanner
import Peg.Proofs.Termination

/-! Where the errors of expressions point. The scanner blames a character that it has before it, and the parser a
token that it sees or the one that it took last. Before the first token the parser has the start of the text for
the last one, which is a place in the text as long as there is any token at all. -/

namespace Peg

/-- The place of a character of the text, counted from the start. -/
structure Location.Within (text : List Char) (location : Location) : Prop where
  length : location.length = 0
  inside : location.index < text.length
  located : location = Location.locate text location.index

/-- The error is one of the text, and names no place but such ones. -/
def SyntaxError.At (place : Location → Prop) : SyntaxError → Prop
  | .located _ location => place location
  | .unexpectedEnd _ => True
  | .halted _ => False

/-- The tokens that are left start at such places, and so does the last that was taken. -/
structure Cursor.At (place : Location → Prop) (cursor : Cursor) : Prop where
  ahead : ∀ lexeme ∈ cursor.ahead.toList, place lexeme.range.start
  last : place cursor.last.start

namespace Proofs
open Scanner

theorem error_of_map {ε α β : Type} {result : Except ε α} {next : α → β} {error : ε}
    (failed : result.map next = .error error) : result = .error error := by
  cases result with
  | error other => exact congrArg Except.error (Except.error.inj failed)
  | ok value => cases failed

section Scanning
variable {text chars rest : List Char} {index : Nat} {first : Char} {error : SyntaxError}

theorem length_after (here : Location) (point : here.length = 0) : (here.after text).length = 0 := by
  induction text generalizing here with
  | nil => exact point
  | cons c rest ih =>
    apply ih
    unfold Location.next
    split <;> rfl

theorem start_range {here : Location} (point : here.length = 0) (length : Nat) :
    (here.range length).start = here := by
  obtain ⟨index, line, column, _⟩ := here
  cases point
  rfl

theorem within_locate (inside : index < text.length) : (Location.locate text index).Within text :=
  ⟨length_after {} rfl, inside, rfl⟩

theorem at_decode {parts : List Element} (inside : index + (written parts).length ≤ text.length)
    (failed : decode text index parts = .error error) : error.At (Location.Within text) := by
  induction parts generalizing index with
  | nil => cases failed
  | cons part parts ih =>
    cases part with
    | plain c =>
      have inside : index + ((written parts).length + 1) ≤ text.length := inside
      exact ih (by omega) (error_of_map failed)
    | escape c =>
      have inside : index + ((written parts).length + 2) ≤ text.length := inside
      rw [decode] at failed
      split at failed
      · exact ih (by omega) (error_of_map failed)
      · cases failed
        exact within_locate (by omega)

theorem at_classify {word : List Char} (inside : index < text.length)
    (failed : classify text index word = .error error) : error.At (Location.Within text) := by
  unfold classify at failed
  dsimp only at failed
  split at failed
  · cases failed
  · split at failed
    · cases failed
    · split at failed
      · split at failed <;> cases failed
        exact within_locate inside
      · cases failed

theorem Remains.lt_length (remains : Remains text.toArray index (first :: rest)) : index < text.length := by
  apply Nat.lt_of_not_le
  intro beyond
  cases remains.symm.trans (List.drop_eq_nil_of_le beyond)

theorem Remains.behind (remains : Remains text.toArray index (first :: rest)) (more : Nat) :
    Remains text.toArray (index + more + 1) (rest.drop more) := by
  rw [Remains, Nat.add_right_comm, ← List.drop_drop, remains.tail]

theorem at_token (remains : Remains text.toArray index (first :: rest))
    (failed : token text index first rest = .error error) : error.At (Location.Within text) := by
  have inside : index < text.length := remains.lt_length
  have size : index + (rest.length + 1) = text.length := remains.inside (Nat.le_of_lt inside)
  unfold token at failed
  split at failed
  · split at failed
    · next parts found =>
      obtain ⟨_, behind, rfl⟩ := elements_eq_some found
      rw [List.length_append, List.length_cons] at size
      exact at_decode (by omega) (error_of_map failed)
    · cases failed
      exact within_locate inside
  · split at failed
    · exact at_classify inside (error_of_map failed)
    · split at failed <;> cases failed
      exact within_locate inside

def Scanned (text : List Char) : Except SyntaxError (List Lexeme) → Prop
  | .ok lexemes => ∀ lexeme ∈ lexemes, lexeme.range.start.Within text
  | .error error => error.At (Location.Within text)

theorem scanned_lexemes (remains : Remains text.toArray index chars) :
    Scanned text (lexemes text index chars) := by
  fun_induction lexemes text index chars with
  | case1 => exact nofun
  | case2 index chars start first rest visible _ error failed =>
    have left : Remains text.toArray start (first :: rest) := visible ▸ remains_visible remains
    exact at_token left failed
  | case3 index chars start first rest visible _ token more _ error failed ih =>
    have left : Remains text.toArray start (first :: rest) := visible ▸ remains_visible remains
    rw [failed] at ih
    exact ih (left.behind more)
  | case4 index chars start first rest visible _ token more _ others read ih =>
    have left : Remains text.toArray start (first :: rest) := visible ▸ remains_visible remains
    have inside : start < text.length := left.lt_length
    rw [read] at ih
    have starts : ((Location.locate text start).range (more + 1)).start.Within text := by
      rw [start_range (within_locate inside).length]
      exact within_locate inside
    exact List.forall_mem_cons.mpr ⟨starts, ih (left.behind more)⟩

theorem tokens_scanned (text : String) : Scanned text.toList (Lexer.tokens text) := by
  rw [tokens_eq_scan]
  exact scanned_lexemes (List.drop_zero ..)

end Scanning

/-- The parser has gone on to such places, or has reported one of them. -/
def Arrived {α : Type} (place : Location → Prop) : Except SyntaxError (α × Cursor) → Prop
  | .ok (_, next) => next.At place
  | .error error => error.At place

/-- The parser never leaves such places. -/
def Locates {α : Type} (place : Location → Prop) (parser : Parse α) : Prop :=
  ∀ cursor, cursor.At place → Arrived place (parser cursor)

section Parsing
variable {α β : Type} {place : Location → Prop} {parser : Parse α}

theorem locates_pure {value : α} : Locates place (pure value) := fun _ placed => placed

theorem Locates.bind {next : α → Parse β} (first : Locates place parser)
    (rest : ∀ value, Locates place (next value)) : Locates place (parser >>= next) := by
  intro cursor placed
  have reached := first cursor placed
  simp only [Bind.bind, StateT.bind, Except.bind]
  cases ran : parser cursor with
  | error error =>
    rw [ran] at reached
    exact reached
  | ok found =>
    rw [ran] at reached
    exact rest _ _ reached

theorem locates_throw {error : SyntaxError} (located : error.At place) : Locates place (throw error : Parse α) :=
  fun _ _ => located

theorem locates_get {next : Cursor → Parse α} (rest : ∀ cursor, cursor.At place → Locates place (next cursor)) :
    Locates place (get >>= next) :=
  fun cursor placed => rest cursor placed cursor placed

theorem locates_peek : Locates place Parse.peek := locates_get fun _ _ => locates_pure

theorem locates_next : Locates place Parse.next := by
  intro cursor placed
  have ahead : ∀ lexeme ∈ cursor.ahead.next.2.toList, place lexeme.range.start :=
    fun lexeme left => placed.ahead lexeme (Lookahead.mem_of_mem_next left)
  cases taken : cursor.ahead.next with
  | mk first rest =>
    rw [taken] at ahead
    rw [Parse.next, taken]
    cases first with
    | none => exact ⟨ahead, placed.last⟩
    | some lexeme => exact ⟨ahead, placed.ahead lexeme (Lookahead.mem_of_next (congrArg Prod.fst taken))⟩

theorem locates_skip : Locates place Parse.skip := locates_next.bind fun _ => locates_pure

theorem locates_unexpected {expected : Expectation} : Locates place (Parse.unexpected expected : Parse α) := by
  apply locates_get
  intro cursor placed
  split
  · next lexeme seen => exact locates_throw (placed.ahead lexeme (Lookahead.mem_of_peek seen))
  · exact locates_throw trivial

theorem locates_nestedTooDeeply : Locates place (Parse.nestedTooDeeply : Parse α) :=
  locates_get fun _ placed => locates_throw placed.last

theorem locates_grow {expression : Expression} {height : Nat} : Locates place (Parse.grow expression height) := by
  rw [Parse.grow]
  split
  · exact locates_nestedTooDeeply
  · exact locates_pure

theorem locates_closeGroup : Locates place Parse.closeGroup := by
  apply locates_next.bind
  intro token
  split
  · exact locates_pure
  · exact locates_get fun _ placed => locates_throw placed.last
  · exact locates_throw trivial

variable {group : Option (Parse Tree)} {operand : Parse Tree}

theorem locates_primary (inner : ∀ parser, group = some parser → Locates place parser) :
    Locates place (Parse.primary group) := by
  apply locates_peek.bind
  intro token
  split
  · exact locates_skip.bind fun _ => locates_pure
  · apply locates_skip.bind
    intro _
    cases group with
    | none => exact locates_nestedTooDeeply
    | some parser => exact (inner parser rfl).bind fun _ => locates_closeGroup.bind fun _ => locates_pure
  · exact locates_unexpected

theorem locates_modifiers (bound : Nat) (tree : Tree) : Locates place (Parse.modifiers bound tree) := by
  induction bound generalizing tree with
  | zero => exact locates_pure
  | succ bound ih =>
    apply locates_peek.bind
    intro token
    split
    · exact locates_unexpected
    · split
      · exact locates_skip.bind fun _ => locates_grow.bind ih
      · exact locates_pure
    · exact locates_pure

theorem locates_term (bound : Nat) (inner : ∀ parser, group = some parser → Locates place parser) :
    Locates place (Parse.term bound group) := by
  apply (locates_primary inner).bind
  intro tree
  apply locates_peek.bind
  intro token
  split
  · apply locates_skip.bind
    intro _
    apply locates_peek.bind
    intro _
    split
    · exact locates_unexpected
    · exact locates_grow
  · exact locates_modifiers bound tree

theorem locates_joinTerms (reads : Locates place operand) (bound : Nat) (left : Tree) :
    Locates place (Parse.joinTerms operand bound left) := by
  induction bound generalizing left with
  | zero => exact locates_pure
  | succ bound ih =>
    apply locates_peek.bind
    intro token
    split
    · exact locates_skip.bind fun _ => reads.bind fun _ => locates_grow.bind ih
    · exact locates_pure

theorem locates_alternatives (reads : Locates place operand) (bound : Nat) :
    Locates place (Parse.alternatives operand bound) := by
  induction bound with
  | zero => exact locates_pure
  | succ bound ih =>
    apply locates_peek.bind
    intro token
    split
    · exact locates_skip.bind fun _ => reads.bind fun _ => ih.bind fun _ => locates_pure
    · exact locates_pure

theorem locates_joinAlternatives (left : Tree) (others : List Tree) :
    Locates place (Parse.joinAlternatives left others) := by
  induction others generalizing left with
  | nil => exact locates_pure
  | cons next others ih => exact (ih next).bind fun _ => locates_grow

theorem locates_choice (bound : Nat) (inner : ∀ parser, group = some parser → Locates place parser) :
    Locates place (Parse.choice bound group) := by
  have term := locates_term bound inner
  have sequence : Locates place (Parse.sequence bound group) := term.bind (locates_joinTerms term bound)
  exact sequence.bind fun first => (locates_alternatives sequence bound).bind (locates_joinAlternatives first)

theorem locates_expression (bound room : Nat) : Locates place (Parse.expression bound room) := by
  induction room with
  | zero => exact locates_choice bound nofun
  | succ room ih =>
    apply locates_choice bound
    intro parser same
    cases same
    exact ih

theorem locates_whole (bound : Nat) : Locates place (Parse.whole bound) := by
  apply (locates_expression bound _).bind
  intro tree
  apply locates_peek.bind
  intro token
  split
  · exact locates_unexpected
  · exact locates_pure

end Parsing

/-- Without a token the parser is at the end at once. With one, the text is not empty, so that its start is a place
in it, too. -/
theorem at_ofTokens {text : List Char} {lexemes : List Lexeme} {error : SyntaxError}
    (starts : ∀ lexeme ∈ lexemes, lexeme.range.start.Within text)
    (failed : Expression.ofTokens lexemes = .error error) : error.At (Location.Within text) := by
  cases lexemes with
  | nil =>
    cases failed
    trivial
  | cons first rest =>
    have start : ({} : Location).start.Within text :=
      within_locate (Nat.zero_lt_of_lt (starts first List.mem_cons_self).inside)
    have placed : Cursor.At (Location.Within text) ⟨Lookahead.ofList 2 (first :: rest), {}⟩ := by
      refine ⟨?_, start⟩
      rw [Lookahead.toList_ofList]
      exact starts
    have arrived := locates_whole (first :: rest).length _ placed
    rw [error_of_map failed] at arrived
    exact arrived

theorem at_parse {text : String} {error : SyntaxError} (failed : Expression.parse text = .error error) :
    error.At (Location.Within text.toList) := by
  have scanned := tokens_scanned text
  rw [Expression.parse] at failed
  cases read : Lexer.tokens text with
  | error other =>
    rw [read] at failed scanned
    cases failed
    exact scanned
  | ok lexemes =>
    rw [read] at failed scanned
    exact at_ofTokens scanned failed

theorem seal_token : TokenGrammar.drafted.2.seal TokenGrammar.parts.token = .ok TokenGrammar.grammar := by
  unfold TokenGrammar.grammar
  split
  · assumption
  · next error failed =>
    have sealed := TokenGrammar.drafted_seals
    rw [failed] at sealed
    cases sealed

/-- The token graph bounds the depth of its runs, so each of them returns. -/
theorem token_run_returns {id : Nat} (inside : id < tokenNodes.length) (source : Source) :
    ∃ run, TokenGrammar.grammar.consumeNode id source none = .ok run := by
  have found : TokenGrammar.grammar.node? id = some tokenNodes[id] :=
    (node?_token id).trans (List.getElem?_eq_getElem inside)
  have known : id < TokenGrammar.grammar.size := (Array.getElem?_eq_some_iff.mp found).1
  have limited : 0 < TokenGrammar.grammar.limits.maxDepth := by
    rw [limits_token]
    decide
  obtain ⟨result, after, answer⟩ := evaluate_returns (.inl limited) known
    (sound_initial ⟨TokenGrammar.grammar, source.scalars, _⟩ source.position_le none)
  exact ⟨_, runWith_of_evaluate answer⟩

/-- Reading a text never comes upon a graph that cannot be sealed or a node that is missing: its runs of the token
graph all return. It has an expression, or an error of syntax. An error with a place names that of a character of
the text. -/
theorem syntax_errors_point_into_text (text : String) :
    TokenGrammar.drafted.2.seal TokenGrammar.parts.token = .ok TokenGrammar.grammar ∧
    (∀ node ∈ [TokenGrammar.parts.space, TokenGrammar.parts.token], ∀ source,
      ∃ run, TokenGrammar.grammar.consumeNode node source none = .ok run) ∧
    ((∃ expression, Expression.parse text = .ok expression) ∨
      ∃ error, Expression.parse text = .error error ∧ (PatternError.text error).isExpressionError = true ∧
        ∀ fault location, error = .located fault location → location.length = 0 ∧
          location.index < text.length ∧ location = Location.locate text.toList location.index) := by
  refine ⟨seal_token, ?_, ?_⟩
  · intro node member source
    rw [parts_token] at member
    rcases List.mem_pair.mp member with rfl | rfl <;> exact token_run_returns (by decide) source
  · cases parsed : Expression.parse text with
    | ok expression => exact .inl ⟨expression, rfl⟩
    | error error =>
      have placed : error.At (Location.Within text.toList) := at_parse parsed
      have isText : (PatternError.text error).isExpressionError = true := by
        cases error with
        | located | unexpectedEnd => rfl
        | halted => exact placed.elim
      refine .inr ⟨error, rfl, isText, ?_⟩
      rintro fault location rfl
      have within : location.Within text.toList := placed
      exact ⟨within.length, String.length_toList ▸ within.inside, within.located⟩

/-- A parenthesis that closes nothing, two lines down, is pointed at where it stands. -/
theorem stray_parenthesis_is_pointed_at :
    let text := "\"a\" then\n\n  )"
    let place : Location := ⟨12, 2, 2, 0⟩
    Expression.parse text = .error (.located (.unexpectedToken .term .rightParen) place) ∧
      place.index < text.length ∧ place = Location.locate text.toList place.index := by
  intro text place
  have failed : Expression.parse text = .error (.located (.unexpectedToken .term .rightParen) place) := by
    decide +kernel
  obtain ⟨_, _, ⟨_, read⟩ | ⟨_, again, _, points⟩⟩ := syntax_errors_point_into_text text
  · cases failed.symm.trans read
  · cases failed.symm.trans again
    exact ⟨failed, (points _ _ rfl).2⟩

end Proofs
end Peg
