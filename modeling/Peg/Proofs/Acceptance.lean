import Peg.Proofs.Diagnosis

/-! The parser accepts the phrases of the grammar within its two bounds, and nothing else. That it
accepts them is shown along a phrase, that it accepts nothing else along the parser: what it has
taken from the tokens is a phrase with the tree that it answers. Where it refuses tokens for what
they are and not for their nesting, it does so at the first with which no expression goes on. -/

namespace Peg.Proofs

section Phrases
variable {bound room : Nat} {tokens tokens' : List Token}
  {whole inner left right : Expression}

/-- Neither the tree nor the groups are nested deeper than the parser follows. -/
def Bounded (room : Nat) (tokens : List Token) (expression : Expression) : Prop :=
  expression.height ≤ Expression.maxHeight ∧ Nests room tokens

theorem bounded_marked (balanced : Balanced tokens) (token : Token) (whole : Expression)
    (other : token ≠ .leftParen) (grown : whole.height = inner.height + 1) :
    Bounded room (tokens ++ [token]) whole ↔ Bounded room tokens inner ∧ inner.height < Expression.maxHeight := by
  simp only [Bounded, nests_append balanced, grown]
  constructor
  · rintro ⟨low, nests, _⟩
    exact ⟨⟨Nat.le_of_succ_le low, nests⟩, low⟩
  · rintro ⟨⟨_, nests⟩, low⟩
    exact ⟨low, nests, nests_single other⟩

theorem bounded_joined (balanced : Balanced tokens) (token : Token) (whole : Expression)
    (other : token ≠ .leftParen) (joins : Balanced [token])
    (grown : whole.height = max left.height right.height + 1) :
    Bounded room (tokens ++ token :: tokens') whole ↔ Bounded room tokens left ∧ Bounded room tokens' right ∧
      max left.height right.height < Expression.maxHeight := by
  simp only [Bounded, nests_joined token other joins balanced, grown]
  constructor
  · rintro ⟨low, nests, nests'⟩
    exact ⟨⟨by omega, nests⟩, ⟨by omega, nests'⟩, low⟩
  · rintro ⟨⟨_, nests⟩, ⟨_, nests'⟩, low⟩
    exact ⟨low, nests, nests'⟩

theorem bounded_group (balanced : Balanced tokens) : Bounded room (.leftParen :: (tokens ++ [.rightParen])) whole ↔
    ∃ inner, room = inner + 1 ∧ Bounded inner tokens whole := by
  simp only [Bounded, nests_enclosed balanced]
  constructor
  · rintro ⟨low, inner, rfl, nests⟩
    exact ⟨inner, rfl, low, nests⟩
  · rintro ⟨inner, rfl, low, nests⟩
    exact ⟨low, inner, rfl, nests⟩

def Category.Reads (bound room : Nat) (tokens : List Token) (expression : Expression) (fits : Prop) :
    Category → Prop
  | .primary => ReadsPrimary bound room tokens expression fits
  | .modified => ReadsModified bound room tokens expression fits
  | .term => ReadsTerm bound room tokens expression fits
  | .sequence => ReadsSequence bound room tokens expression fits
  | .choice => ReadsChoice bound room tokens expression fits

theorem Phrase.reads {category : Category} {expression : Expression}
    (phrase : Phrase category tokens expression) (enough : tokens.length ≤ bound) (room : Nat) :
    category.Reads bound room tokens expression (Bounded room tokens expression) := by
  induction phrase generalizing room with
  | literal text =>
    intro rest
    refine yields_peek.pass (yields_skip.pass (yields_pure.congr ?_))
    exact iff_of_true trivial ⟨Nat.le_add_left 1 255, nests_single nofun⟩
  | group inner ih =>
    simp only [List.length_cons, List.length_append] at enough
    rw [bounded_group inner.balanced]
    exact grouped_primary (by omega) (ih (by omega))
  | plain _ ih => exact ReadsPrimary.modified (ih enough room)
  | modified inner modifier ih =>
    rw [List.length_append] at enough
    rw [bounded_marked inner.balanced modifier.token (.modified _ modifier) (by cases modifier <;> nofun) rfl]
    exact ReadsModified.step (ih (Nat.le_of_add_right_le enough) room) modifier
  | uncounted _ ih => exact ReadsModified.term (ih enough room) enough
  | times inner count ih =>
    rw [List.length_append] at enough
    rw [bounded_marked inner.balanced (.times count) (.times _ count) nofun rfl]
    exact ReadsPrimary.times (ih (Nat.le_of_add_right_le enough) room) count
  | single _ ih => exact ReadsTerm.sequence (ih enough room)
  | sequence first _ ih ih' =>
    simp only [List.length_append, List.length_cons] at enough
    rw [bounded_joined first.balanced .then_ (.sequence _ _) nofun rfl rfl]
    exact ReadsSequence.step (ih (by omega) room) (ih' (by omega) room)
  | only _ ih => exact ReadsSequence.choice (ih enough room) enough
  | choice first _ ih ih' =>
    simp only [List.length_append, List.length_cons] at enough
    rw [bounded_joined first.balanced .or_ (.choice _ _) nofun rfl rfl]
    exact ReadsSequence.join (ih (by omega) room) (by omega) (ih' (by omega) room)

end Phrases

section Tokens
variable {lexemes : List Lexeme} {expression : Expression}

theorem phrase_of_ofTokens (parsed : Expression.ofTokens lexemes = .ok expression) :
    Phrase .choice (lexemes.map Lexeme.token) expression := by
  rcases ofTokens_cases lexemes with ⟨_, again, phrase⟩ | ⟨_, failed, _⟩
  · cases parsed.symm.trans again
    exact phrase
  · cases parsed.symm.trans failed

theorem Phrase.ofTokens (phrase : Phrase .choice (lexemes.map Lexeme.token) expression) :
    let bounded := Bounded Expression.maxHeight (lexemes.map Lexeme.token) expression
    (bounded → Expression.ofTokens lexemes = .ok expression) ∧
    (¬ bounded → ∃ location, Expression.ofTokens lexemes = .error (.located .nestedTooDeeply location)) := by
  have reads : ReadsChoice lexemes.length Expression.maxHeight _ _ _ :=
    phrase.reads (Nat.le_of_eq (List.length_map _)) _
  have whole : Yields (Parse.whole lexemes.length) (lexemes.map Lexeme.token)
      (Bounded Expression.maxHeight (lexemes.map Lexeme.token) expression ∧ True) expression [] := by
    have choice := reads lexemes.length [] (Nat.le_of_eq (List.length_map _)) rfl
    rw [List.append_nil] at choice
    rw [Parse.whole, expression_eq]
    exact choice.bind fun _ => yields_peek.pass yields_pure
  obtain ⟨read, deep⟩ := whole _ (sees_ofList lexemes).shows
  constructor
  · intro bounded
    obtain ⟨next, ran, _⟩ := read ⟨bounded, trivial⟩
    rw [Expression.ofTokens, ran]
    rfl
  · intro exceeds
    obtain ⟨location, failed⟩ := deep fun both => exceeds both.1
    rw [Expression.ofTokens, failed]
    exact ⟨location, rfl⟩

/-- The tokens in which an expression is written are read back as the expression. They open no more
groups than the expression is high, so nothing but the height can be too much. -/
theorem ofTokens_tokens (spelled : lexemes.map Lexeme.token = expression.tokens) :
    (expression.height ≤ Expression.maxHeight → Expression.ofTokens lexemes = .ok expression) ∧
    (¬ expression.height ≤ Expression.maxHeight →
      ∃ location, Expression.ofTokens lexemes = .error (.located .nestedTooDeeply location)) := by
  have phrase := (phrase_tokens expression).choice_of
  rw [← spelled] at phrase
  obtain ⟨read, deep⟩ := phrase.ofTokens
  constructor
  · intro low
    have fewer := Nat.le_trans (Nat.le_of_lt (groups_lt_height expression)) low
    have nests := (nests_tokens expression).mono fewer
    exact read ⟨low, spelled ▸ nests⟩
  · intro high
    exact deep fun bounded => high bounded.1

/-- The parser accepts exactly its grammar, where at no place more than 256 groups are open and the
tree is not higher than 256. -/
theorem ofTokens_eq_ok_iff (lexemes : List Lexeme) (expression : Expression) :
    Expression.ofTokens lexemes = .ok expression ↔
      Phrase .choice (lexemes.map Lexeme.token) expression ∧
        Nests 256 (lexemes.map Lexeme.token) ∧ expression.height ≤ 256 := by
  constructor
  · intro parsed
    have phrase := phrase_of_ofTokens parsed
    by_cases bounded : Bounded Expression.maxHeight (lexemes.map Lexeme.token) expression
    · exact ⟨phrase, bounded.2, bounded.1⟩
    · obtain ⟨location, failed⟩ := phrase.ofTokens.2 bounded
      cases parsed.symm.trans failed
  · rintro ⟨phrase, nests, low⟩
    exact phrase.ofTokens.1 ⟨low, nests⟩

theorem underivable_of_error {error : SyntaxError} (failed : Expression.ofTokens lexemes = .error error)
    (other : ∀ location, error ≠ .located .nestedTooDeeply location) :
    ¬ ∃ expression, Phrase .choice (lexemes.map Lexeme.token) expression := by
  rintro ⟨expression, phrase⟩
  obtain ⟨read, deep⟩ := phrase.ofTokens
  by_cases bounded : Bounded Expression.maxHeight (lexemes.map Lexeme.token) expression
  · cases failed.symm.trans (read bounded)
  · obtain ⟨location, failed'⟩ := deep bounded
    cases failed.symm.trans failed'
    exact other location rfl

/-- Tokens that are refused for anything but their nesting have either ended too early, and an expression can
start with all of them, or they are refused at the first of them with which no expression can go on. -/
theorem error_is_at_first_offending_token {error : SyntaxError} (failed : Expression.ofTokens lexemes = .error error)
    (other : ∀ location, error ≠ .located .nestedTooDeeply location) :
    let ended := ∃ expected, error = .unexpectedEnd expected
    (ended ↔ Viable (lexemes.map Lexeme.token) ∧
      ¬ ∃ expression, Phrase .choice (lexemes.map Lexeme.token) expression) ∧
    (¬ ended → ∃ before lexeme after fault, lexemes = before ++ lexeme :: after ∧
      Viable (before.map Lexeme.token) ∧ ¬ Viable ((before ++ [lexeme]).map Lexeme.token) ∧
      error = .located fault { lexeme.range with length := 0 }) := by
  have underivable := underivable_of_error failed other
  obtain ⟨_, again, blamed⟩ : ∃ error, Expression.ofTokens lexemes = .error error ∧ Blames 0 lexemes error := by
    rcases ofTokens_cases lexemes with ⟨_, read, _⟩ | blamed
    · cases failed.symm.trans read
    · exact blamed
  cases failed.symm.trans again
  cases blamed with
  | deep location => exact absurd rfl (other location)
  | ended followed =>
    have viable := (viable_iff_follow _).mpr ⟨_, followed⟩
    exact ⟨iff_of_true ⟨_, rfl⟩ ⟨viable, underivable⟩, fun early => absurd ⟨_, rfl⟩ early⟩
  | @stuck before lexeme after state fault split followed stopped =>
    have viable := (viable_iff_follow _).mpr ⟨_, followed⟩
    have offends : ¬ Viable ((before ++ [lexeme]).map Lexeme.token) := by
      rw [viable_iff_follow, List.map_append, follow_behind followed, List.map_singleton, follow_cons, stopped]
      rintro ⟨_, impossible⟩
      cases impossible
    have unviable : ¬ Viable (lexemes.map Lexeme.token) := by
      intro viable
      rw [split, ← List.singleton_append, ← List.append_assoc, List.map_append] at viable
      exact offends viable.before
    refine ⟨iff_of_false nofun fun both => unviable both.1, fun _ => ?_⟩
    exact ⟨before, lexeme, after, fault, split, viable, offends, rfl⟩

/-- A group that is still open has ended too early. A modifier behind a repeat count is refused where it stands. -/
theorem modifier_behind_count_is_first_offence :
    let early : List Lexeme := [⟨.leftParen, ⟨0, 0, 0, 1⟩⟩, ⟨.literal "a", ⟨1, 0, 1, 3⟩⟩]
    let wrong : List Lexeme := [⟨.literal "a", ⟨0, 0, 0, 3⟩⟩, ⟨.times 3, ⟨4, 0, 4, 2⟩⟩, ⟨.plus, ⟨6, 0, 6, 1⟩⟩]
    Expression.ofTokens early = .error (.unexpectedEnd .closingParen) ∧ Viable [.leftParen, .literal "a"] ∧
      Expression.ofTokens wrong = .error (.located (.unexpectedToken .onlyCount .plus) ⟨6, 0, 6, 0⟩) ∧
      ∃ before lexeme after, wrong = before ++ lexeme :: after ∧ Viable (before.map Lexeme.token) ∧
        ¬ Viable ((before ++ [lexeme]).map Lexeme.token) ∧ lexeme.range.start = ⟨6, 0, 6, 0⟩ := by
  intro early wrong
  have failed : Expression.ofTokens early = .error (.unexpectedEnd .closingParen) := rfl
  have failed' : Expression.ofTokens wrong =
    .error (.located (.unexpectedToken .onlyCount .plus) ⟨6, 0, 6, 0⟩) := rfl
  have viable := (error_is_at_first_offending_token failed nofun).1.mp ⟨_, rfl⟩
  obtain ⟨before, lexeme, after, fault, split, starts, offends, same⟩ :=
    (error_is_at_first_offending_token failed' nofun).2 nofun
  obtain ⟨_, place⟩ := SyntaxError.located.inj same
  exact ⟨failed, viable.1, failed', before, lexeme, after, split, starts, offends, place.symm⟩

end Tokens

end Peg.Proofs
