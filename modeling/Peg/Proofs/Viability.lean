import Peg.Proofs.Phrase

/-! Which tokens an expression can start with. What may follow some tokens depends on how far they have come with
the term they end in and on how many groups are open, and on nothing else. So viability is decided in one pass:
what can be followed from the start to its end is the beginning of some expression, and nothing else is. -/

namespace Peg.Proofs

/-- With some tokens behind them, the tokens are an expression. -/
def Viable (tokens : List Token) : Prop := ∃ more expression, Phrase .choice (tokens ++ more) expression

theorem Viable.before {first rest : List Token} (viable : Viable (first ++ rest)) : Viable first := by
  obtain ⟨more, expression, phrase⟩ := viable
  exact ⟨rest ++ more, expression, by rwa [← List.append_assoc]⟩

/-- What has been read of a term: nothing, a primary, one with modifiers, or one with a repeat count. -/
inductive Stage where
  | operand
  | primary
  | modified
  | counted

/-- How a token goes on, where so many groups are open. -/
def advance : Stage × Nat → Token → Option (Stage × Nat)
  | (.operand, groups), .literal _ => some (.primary, groups)
  | (.operand, groups), .leftParen => some (.operand, groups + 1)
  | (.operand, _), _ => none
  | (_, groups), .then_ | (_, groups), .or_ => some (.operand, groups)
  | (_, groups + 1), .rightParen => some (.primary, groups)
  | (.primary, groups), .times _ => some (.counted, groups)
  | (.primary, groups), .plus | (.primary, groups), .question | (.primary, groups), .minus
  | (.modified, groups), .plus | (.modified, groups), .question | (.modified, groups), .minus =>
    some (.modified, groups)
  | _, _ => none

/-- Where the tokens lead to, unless one of them cannot stand where it does. -/
def follow (state : Stage × Nat) (tokens : List Token) : Option (Stage × Nat) := tokens.foldlM advance state

/-- What the tokens of a phrase of the category can end with. -/
def Category.EndsWith : Category → Stage → Prop
  | .primary, stage => stage = .primary
  | .modified, stage => stage = .primary ∨ stage = .modified
  | .term, stage | .sequence, stage | .choice, stage => stage ≠ .operand

section Following
variable {state middle : Stage × Nat} {tokens first rest : List Token} {token : Token} {stage : Stage} {groups : Nat}
  {category : Category} {expression : Expression}

theorem follow_append : follow state (first ++ rest) = (follow state first).bind fun middle => follow middle rest :=
  List.foldlM_append

theorem follow_cons : follow state (token :: rest) = (advance state token).bind fun middle => follow middle rest :=
  List.foldlM_cons

theorem follow_behind (followed : follow state first = some middle) :
    follow state (first ++ rest) = follow middle rest := by
  rw [follow_append, followed, Option.bind_some]

theorem follow_past (followed : follow state first = some middle) (token : Token) :
    follow state (first ++ token :: rest) = (advance middle token).bind fun next => follow next rest := by
  rw [follow_behind followed, follow_cons]

theorem advance_join (complete : stage ≠ .operand) :
    advance (stage, groups) .then_ = some (.operand, groups) ∧
    advance (stage, groups) .or_ = some (.operand, groups) ∧
    advance (stage, groups + 1) .rightParen = some (.primary, groups) := by
  cases stage with
  | operand => exact absurd rfl complete
  | primary | modified | counted => exact ⟨rfl, rfl, rfl⟩

theorem advance_modifier (ends : Category.modified.EndsWith stage) (modifier : Modifier) :
    advance (stage, groups) modifier.token = some (.modified, groups) := by
  rcases ends with rfl | rfl <;> cases modifier <;> rfl

theorem Phrase.follows (phrase : Phrase category tokens expression) (groups : Nat) :
    ∃ stage, category.EndsWith stage ∧ follow (.operand, groups) tokens = some (stage, groups) := by
  induction phrase generalizing groups with
  | literal text => exact ⟨.primary, rfl, rfl⟩
  | group inner ih =>
    obtain ⟨stage, complete, followed⟩ := ih (groups + 1)
    have opened : follow (.operand, groups) [.leftParen] = some (.operand, groups + 1) := rfl
    refine ⟨.primary, rfl, ?_⟩
    rw [← List.singleton_append, follow_behind opened, follow_past followed, (advance_join complete).2.2]
    rfl
  | plain _ ih =>
    obtain ⟨stage, rfl, followed⟩ := ih groups
    exact ⟨.primary, .inl rfl, followed⟩
  | modified _ modifier ih =>
    obtain ⟨stage, ends, followed⟩ := ih groups
    refine ⟨.modified, .inr rfl, ?_⟩
    rw [follow_past followed, advance_modifier ends]
    rfl
  | uncounted _ ih =>
    obtain ⟨stage, rfl | rfl, followed⟩ := ih groups
    · exact ⟨.primary, nofun, followed⟩
    · exact ⟨.modified, nofun, followed⟩
  | times _ count ih =>
    obtain ⟨stage, rfl, followed⟩ := ih groups
    refine ⟨.counted, nofun, ?_⟩
    rw [follow_past followed]
    rfl
  | single _ ih | only _ ih => exact ih groups
  | sequence _ _ ih ih' =>
    obtain ⟨stage, complete, followed⟩ := ih groups
    obtain ⟨stage', complete', followed'⟩ := ih' groups
    refine ⟨stage', complete', ?_⟩
    rw [follow_past followed, (advance_join complete).1]
    exact followed'
  | choice _ _ ih ih' =>
    obtain ⟨stage, complete, followed⟩ := ih groups
    obtain ⟨stage', complete', followed'⟩ := ih' groups
    refine ⟨stage', complete', ?_⟩
    rw [follow_past followed, (advance_join complete).2.1]
    exact followed'

end Following

/-- What stands in a sequence before one of its terms. -/
inductive Joined : List Token → Prop where
  | first : Joined []
  | next {tokens expression} (phrase : Phrase .sequence tokens expression) : Joined (tokens ++ [.then_])

/-- What stands before a sequence, with the number of groups that are open there. -/
inductive Opened : Nat → List Token → Prop where
  | start : Opened 0 []
  | alternative {groups front tokens expression} (opened : Opened groups front)
      (phrase : Phrase .sequence tokens expression) : Opened groups (front ++ (tokens ++ [.or_]))
  | group {groups front tokens} (opened : Opened groups front) (joined : Joined tokens) :
      Opened (groups + 1) (front ++ (tokens ++ [.leftParen]))

def Stage.Reads : Stage → List Token → Prop
  | .operand, tokens => tokens = []
  | .primary, tokens => ∃ expression, Phrase .primary tokens expression
  | .modified, tokens => ∃ expression, Phrase .modified tokens expression
  | .counted, tokens => ∃ expression, Phrase .term tokens expression

/-- The tokens end in a sequence that has been read up to this stage of one of its terms. -/
inductive Unfinished : Stage × Nat → List Token → Prop where
  | intro {stage groups front joined part} (opened : Opened groups front) (before : Joined joined)
      (reads : stage.Reads part) : Unfinished (stage, groups) (front ++ (joined ++ part))

section Completing
variable {state next : Stage × Nat} {stage : Stage} {groups : Nat} {tokens front joined part : List Token}
  {token : Token} {expression : Expression}

theorem Stage.Reads.term (reads : stage.Reads part) (complete : stage ≠ .operand) :
    ∃ expression, Phrase .term part expression := by
  cases stage with
  | operand => exact absurd rfl complete
  | primary =>
    obtain ⟨expression, phrase⟩ := reads
    exact ⟨expression, .uncounted (.plain phrase)⟩
  | modified =>
    obtain ⟨expression, phrase⟩ := reads
    exact ⟨expression, .uncounted phrase⟩
  | counted => exact reads

theorem Joined.sequence (before : Joined joined) (phrase : Phrase .term part expression) :
    ∃ expression, Phrase .sequence (joined ++ part) expression := by
  cases before with
  | first => exact ⟨expression, .single phrase⟩
  | next first => exact ⟨_, by simpa using Phrase.sequence first phrase⟩

theorem Opened.viable (opened : Opened groups front) (phrase : Phrase .choice tokens expression) :
    Viable (front ++ tokens) := by
  induction opened generalizing tokens expression with
  | start => exact ⟨[], expression, by rwa [List.append_nil]⟩
  | alternative _ first ih => simpa using ih (.choice first phrase)
  | group _ joined ih =>
    obtain ⟨_, sequence⟩ := joined.sequence (.uncounted (.plain (.group phrase)))
    obtain ⟨more, whole, completed⟩ := ih (.only sequence)
    exact ⟨.rightParen :: more, whole, by simpa using completed⟩

theorem Opened.close (opened : Opened (groups + 1) front) (phrase : Phrase .choice tokens expression) :
    Unfinished (.primary, groups) (front ++ tokens ++ [.rightParen]) := by
  generalize same : groups + 1 = inside at opened
  induction opened generalizing tokens expression with
  | start => cases same
  | alternative _ first ih =>
    -- The alternatives before it belong to the group as well.
    simpa using ih (.choice first phrase) same
  | group opened joined =>
    cases same
    have closed : Stage.primary.Reads _ := ⟨_, .group phrase⟩
    simpa using Unfinished.intro opened joined closed

theorem unfinished_joined (opened : Opened groups front) (before : Joined joined) :
    Unfinished (.operand, groups) (front ++ joined) := by
  have nothing : Stage.operand.Reads [] := rfl
  simpa using Unfinished.intro opened before nothing

theorem Unfinished.modified (opened : Opened groups front) (before : Joined joined) (reads : stage.Reads part)
    (modifier : Modifier) (advanced : advance (stage, groups) modifier.token = some next) :
    Unfinished next (front ++ (joined ++ part) ++ [modifier.token]) := by
  obtain ⟨expression, phrase, rfl⟩ :
      ∃ expression, Phrase .modified part expression ∧ next = (.modified, groups) := by
    cases stage with
    | operand | counted => cases modifier <;> cases advanced
    | primary =>
      obtain ⟨expression, phrase⟩ := reads
      exact ⟨expression, .plain phrase, by cases modifier <;> cases advanced <;> rfl⟩
    | modified =>
      obtain ⟨expression, phrase⟩ := reads
      exact ⟨expression, phrase, by cases modifier <;> cases advanced <;> rfl⟩
  have longer : Stage.modified.Reads (part ++ [modifier.token]) := ⟨_, .modified phrase modifier⟩
  simpa using Unfinished.intro opened before longer

theorem Unfinished.advance (unfinished : Unfinished state tokens) (advanced : advance state token = some next) :
    Unfinished next (tokens ++ [token]) := by
  obtain ⟨opened, before, reads⟩ := unfinished
  next stage groups front joined part =>
  by_cases complete : stage = .operand
  · subst complete
    obtain rfl : part = [] := reads
    cases token with
    | literal text =>
      cases advanced
      have read : Stage.primary.Reads [.literal text] := ⟨_, .literal text⟩
      simpa using Unfinished.intro opened before read
    | leftParen =>
      cases advanced
      simpa using unfinished_joined (opened.group before) .first
    | _ => cases advanced
  · obtain ⟨_, term⟩ := reads.term complete
    obtain ⟨_, sequence⟩ := before.sequence term
    cases token with
    | then_ =>
      cases (advance_join complete).1.symm.trans advanced
      simpa using unfinished_joined opened (.next sequence)
    | or_ =>
      cases (advance_join complete).2.1.symm.trans advanced
      simpa using unfinished_joined (opened.alternative sequence) .first
    | rightParen =>
      cases groups with
      | zero => cases stage <;> cases advanced
      | succ groups =>
        cases (advance_join complete).2.2.symm.trans advanced
        exact opened.close (.only sequence)
    | times count =>
      cases stage <;> cases advanced
      obtain ⟨_, phrase⟩ := reads
      have counted : Stage.counted.Reads (part ++ [.times count]) := ⟨_, .times phrase count⟩
      simpa using Unfinished.intro opened before counted
    | plus => exact .modified opened before reads .oneOrMore advanced
    | question => exact .modified opened before reads .optional advanced
    | minus => exact .modified opened before reads .negate advanced
    | literal | leftParen | word => cases stage <;> first | exact absurd rfl complete | cases advanced

theorem Unfinished.follow (unfinished : Unfinished state front) (followed : follow state tokens = some next) :
    Unfinished next (front ++ tokens) := by
  induction tokens generalizing state front with
  | nil =>
    cases followed
    rwa [List.append_nil]
  | cons token rest ih =>
    rw [follow_cons] at followed
    obtain ⟨middle, advanced, followed⟩ := Option.bind_eq_some_iff.mp followed
    rw [← List.singleton_append, ← List.append_assoc]
    exact ih (unfinished.advance advanced) followed

theorem Unfinished.viable (unfinished : Unfinished state tokens) : Viable tokens := by
  obtain ⟨opened, before, reads⟩ := unfinished
  next stage groups front joined part =>
  by_cases complete : stage = .operand
  · subst complete
    obtain rfl : part = [] := reads
    obtain ⟨_, sequence⟩ := before.sequence (.uncounted (.plain (.literal "")))
    obtain ⟨more, whole, phrase⟩ := opened.viable (.only sequence)
    exact ⟨.literal "" :: more, whole, by simpa using phrase⟩
  · obtain ⟨_, term⟩ := reads.term complete
    obtain ⟨_, sequence⟩ := before.sequence term
    exact opened.viable (.only sequence)

end Completing

/-- Tokens are the beginning of an expression exactly if they can be followed to their end. -/
theorem viable_iff_follow (tokens : List Token) :
    Viable tokens ↔ ∃ state, follow (.operand, 0) tokens = some state := by
  constructor
  · rintro ⟨more, expression, phrase⟩
    obtain ⟨stage, _, followed⟩ := phrase.follows 0
    rw [follow_append] at followed
    obtain ⟨state, followed, _⟩ := Option.bind_eq_some_iff.mp followed
    exact ⟨state, followed⟩
  · rintro ⟨state, followed⟩
    have start : Unfinished (.operand, 0) [] := unfinished_joined .start .first
    exact (start.follow followed).viable

instance (tokens : List Token) : Decidable (Viable tokens) :=
  decidable_of_iff ((follow (.operand, 0) tokens).isSome = true)
    (Option.isSome_iff_exists.trans (viable_iff_follow tokens).symm)

example : Viable [.leftParen, .literal "a", .times 3, .or_] ∧ ¬ Viable [.literal "a", .times 3, .plus] := by decide

end Peg.Proofs
