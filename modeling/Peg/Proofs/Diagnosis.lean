import Peg.Proofs.Reading
import Peg.Proofs.Viability

/-! What the parser answers, level by level of the grammar. Where it has a tree, the tokens that it has taken are a
phrase with that tree, and the next token does not go on with it. Where it has none and does not find the nesting
too deep, it has followed the tokens as far as they can be followed. -/

namespace Peg.Proofs

def Answered {α : Type} (found : α → List Lexeme → Prop) (blames : SyntaxError → Prop) :
    Except SyntaxError (α × Cursor) → Prop
  | .ok (value, next) => ∃ rest, Sees next rest ∧ found value rest
  | .error error => blames error

/-- Where the cursor is before these lexemes, the parser answers so. -/
def Answers {α : Type} (parser : Parse α) (lexemes : List Lexeme) (found : α → List Lexeme → Prop)
    (blames : SyntaxError → Prop) : Prop :=
  ∀ cursor, Sees cursor lexemes → Answered found blames (parser cursor)

section Answering
variable {α β : Type} {parser : Parse α} {lexemes rest : List Lexeme} {lexeme : Lexeme} {cursor : Cursor}
  {found : α → List Lexeme → Prop} {result : β → List Lexeme → Prop} {blames : SyntaxError → Prop}
  {expected : Expectation}

theorem answers_pure {value : α} (holds : found value lexemes) : Answers (pure value) lexemes found blames := by
  intro cursor sees
  exact ⟨lexemes, sees, holds⟩

theorem answers_throw {error : SyntaxError} (blamed : blames error) :
    Answers (throw error) lexemes found blames := by
  intro cursor _
  exact blamed

theorem Answers.bind {next : α → Parse β} (first : Answers parser lexemes found blames)
    (second : ∀ value rest, found value rest → Answers (next value) rest result blames) :
    Answers (parser >>= next) lexemes result blames := by
  intro cursor sees
  have answered := first cursor sees
  simp only [Bind.bind, StateT.bind, Except.bind]
  cases ran : parser cursor with
  | error error =>
    rw [ran] at answered
    exact answered
  | ok reached =>
    rw [ran] at answered
    obtain ⟨rest, sees, holds⟩ := answered
    exact second _ _ holds _ sees

theorem Answers.mono {found' : α → List Lexeme → Prop} {blames' : SyntaxError → Prop}
    (answers : Answers parser lexemes found blames) (weaker : ∀ value rest, found value rest → found' value rest)
    (milder : ∀ error, blames error → blames' error) : Answers parser lexemes found' blames' := by
  intro cursor sees
  have answered := answers cursor sees
  cases ran : parser cursor with
  | error error =>
    rw [ran] at answered
    exact milder error answered
  | ok reached =>
    rw [ran] at answered
    obtain ⟨rest, sees, holds⟩ := answered
    exact ⟨rest, sees, weaker _ _ holds⟩

theorem answers_get {next : Cursor → Parse α}
    (rest : ∀ cursor, Sees cursor lexemes → Answers (next cursor) lexemes found blames) :
    Answers (get >>= next) lexemes found blames := by
  intro cursor sees
  exact rest cursor sees cursor sees

theorem Answers.peek {next : Option Token → Parse β}
    (rest : Answers (next (lexemes.map Lexeme.token).head?) lexemes result blames) :
    Answers (Parse.peek >>= next) lexemes result blames := by
  apply answers_get
  intro cursor sees
  rw [List.head?_map, ← sees.peek] at rest
  exact rest

theorem Answers.skip {next : Unit → Parse β} (behind : Answers (next ()) rest result blames) :
    Answers (Parse.skip >>= next) (lexeme :: rest) result blames := by
  intro cursor sees
  obtain ⟨after, ran, sees, _⟩ := sees.next
  have same : (Parse.skip >>= next) cursor = next () after := by
    simp only [Parse.skip, Bind.bind, StateT.bind, ran, Except.bind]
    rfl
  rw [same]
  exact behind after sees

theorem answers_unexpected (blamed : ∀ fault, blames (.located fault lexeme.range.start)) :
    Answers (Parse.unexpected expected) (lexeme :: rest) found blames := by
  apply answers_get
  intro cursor sees
  rw [sees.peek]
  exact answers_throw (blamed _)

theorem answers_ended (blamed : blames (.unexpectedEnd expected)) :
    Answers (Parse.unexpected expected) [] found blames := by
  apply answers_get
  intro cursor sees
  rw [sees.peek]
  exact answers_throw blamed

theorem answers_nestedTooDeeply (deep : ∀ location, blames (.located .nestedTooDeeply location)) :
    Answers Parse.nestedTooDeeply lexemes found blames :=
  answers_get fun _ _ => answers_throw (deep _)

theorem answers_grow {expression : Expression} {height : Nat} {found : Tree → List Lexeme → Prop}
    (holds : found ⟨expression, height + 1⟩ lexemes)
    (deep : ∀ location, blames (.located .nestedTooDeeply location)) :
    Answers (Parse.grow expression height) lexemes found blames := by
  rw [Parse.grow]
  split
  · exact answers_nestedTooDeeply deep
  · exact answers_pure holds

theorem Answers.grow {expression : Expression} {height : Nat} {next : Tree → Parse β}
    (grown : Answers (next ⟨expression, height + 1⟩) lexemes result blames)
    (deep : ∀ location, blames (.located .nestedTooDeeply location)) :
    Answers (Parse.grow expression height >>= next) lexemes result blames := by
  have alone : Answers (Parse.grow expression height) lexemes
      (fun tree rest => tree = ⟨expression, height + 1⟩ ∧ rest = lexemes) blames := answers_grow ⟨rfl, rfl⟩ deep
  apply alone.bind
  rintro _ _ ⟨rfl, rfl⟩
  exact grown

theorem answers_closeGroup {found : Unit → List Lexeme → Prop}
    (ended : lexemes = [] → blames (.unexpectedEnd .closingParen))
    (closes : ∀ lexeme rest, lexemes = lexeme :: rest → lexeme.token = .rightParen → found () rest)
    (other : ∀ lexeme rest, lexemes = lexeme :: rest → lexeme.token ≠ .rightParen →
      ∀ fault, blames (.located fault lexeme.range.start)) : Answers Parse.closeGroup lexemes found blames := by
  intro cursor sees
  cases lexemes with
  | nil =>
    obtain ⟨after, ran⟩ := sees.ended
    simp only [Parse.closeGroup, Bind.bind, StateT.bind, ran, Except.bind]
    exact ended rfl
  | cons lexeme rest =>
    obtain ⟨token, range⟩ := lexeme
    obtain ⟨after, ran, left, last⟩ := sees.next
    simp only [Parse.closeGroup, Bind.bind, StateT.bind, ran, Except.bind]
    cases token with
    | rightParen => exact ⟨rest, left, closes _ rest rfl rfl⟩
    | _ =>
      have blamed := other _ rest rfl nofun .unclosedGroup
      rw [← last] at blamed
      exact blamed

end Answering

def Category.continues : Category → Token → Bool
  | .primary, _ | .modified, _ => false
  | .term, token => Parse.isOperator token
  | .sequence, token => continuesSequence token
  | .choice, token => continuesChoice token

/-- What has been taken from the lexemes is a phrase of the category, with this tree, and what remains does not go
on with it. -/
def Taken (category : Category) (lexemes : List Lexeme) (tree : Tree) (rest : List Lexeme) : Prop :=
  ∃ used, lexemes = used ++ rest ∧ Phrase category (used.map Lexeme.token) tree.expression ∧
    (rest.map Lexeme.token).head?.any category.continues = false

/-- From where a term is expected, with so many groups open, the lexemes lead to this state. -/
def Leads (groups : Nat) (lexemes : List Lexeme) (state : Stage × Nat) : Prop :=
  follow (.operand, groups) (lexemes.map Lexeme.token) = some state

/-- The nesting is found too deep, or all of the lexemes can be followed, or the first that cannot be is blamed. -/
inductive Blames (groups : Nat) (lexemes : List Lexeme) : SyntaxError → Prop where
  | deep (location : Location) : Blames groups lexemes (.located .nestedTooDeeply location)
  | ended {expected state} (led : Leads groups lexemes state) : Blames groups lexemes (.unexpectedEnd expected)
  | stuck {before lexeme after state fault} (split : lexemes = before ++ lexeme :: after)
      (led : Leads groups before state) (stopped : advance state lexeme.token = none) :
      Blames groups lexemes (.located fault lexeme.range.start)

/-- The parser reads the category, and says what is wrong, however many groups are open around it. -/
def Diagnoses (bound : Nat) (category : Category) (parser : Parse Tree) : Prop :=
  ∀ groups lexemes, lexemes.length ≤ bound →
    Answers parser lexemes (Taken category lexemes) (Blames groups lexemes)

section Diagnosing
variable {bound loops groups more : Nat} {all used rest lexemes : List Lexeme} {lexeme : Lexeme} {tree left : Tree}
  {stage : Stage} {state reached : Stage × Nat} {token : Token} {group : Option (Parse Tree)} {error : SyntaxError}

theorem Phrase.leads {category : Category} {expression : Expression}
    (phrase : Phrase category (used.map Lexeme.token) expression) (groups : Nat) :
    ∃ stage, category.EndsWith stage ∧ Leads groups used (stage, groups) := phrase.follows groups

theorem leads_nil (groups : Nat) : Leads groups [] (.operand, groups) := rfl

theorem Leads.behind (led : Leads groups used (.operand, more)) (further : Leads more rest state) :
    Leads groups (used ++ rest) state := by
  rw [Leads, List.map_append, follow_behind led]
  exact further

theorem Leads.next (led : Leads groups used state) (advanced : advance state lexeme.token = some reached) :
    Leads groups (used ++ [lexeme]) reached := by
  rw [Leads, List.map_append, List.map_singleton, follow_past led, advanced]
  rfl

theorem Blames.behind (led : Leads groups used (.operand, more)) (blamed : Blames more rest error) :
    Blames groups (used ++ rest) error := by
  cases blamed with
  | deep location => exact .deep location
  | ended further => exact .ended (led.behind further)
  | stuck split further stopped => exact .stuck (by rw [split, List.append_assoc]) (led.behind further) stopped

theorem Answers.behind {parser : Parse Tree} {found : Tree → List Lexeme → Prop}
    (led : Leads groups used (.operand, more))
    (answers : Answers parser rest found (Blames more rest)) :
    Answers parser rest found (Blames groups (used ++ rest)) :=
  answers.mono (fun _ _ => id) fun _ => Blames.behind led

theorem Diagnoses.joined {category : Category} {parser : Parse Tree} (parses : Diagnoses bound category parser)
    (split : all = used ++ lexeme :: rest) (led : Leads groups (used ++ [lexeme]) (.operand, groups))
    (enough : (lexeme :: rest).length ≤ bound) : Answers parser rest (Taken category rest) (Blames groups all) := by
  have answers := (parses groups rest (Nat.le_of_succ_le enough)).behind led
  rwa [List.append_assoc, List.singleton_append, ← split] at answers

theorem token_modifier? {modifier : Modifier} (known : Parse.modifier? token = some modifier) :
    token = modifier.token := by
  cases token <;> cases known <;> rfl

theorem primary_stops (rest : List Lexeme) :
    (rest.map Lexeme.token).head?.any Category.primary.continues = false := by
  cases rest <;> rfl

theorem head_any_or {head : Option Token} {test : Token → Bool} (ends : head.any test = false)
    (other : head ≠ some token) : head.any (fun found => test found || found == token) = false := by
  cases head with
  | none => rfl
  | some found =>
    have differs : found ≠ token := fun same => other (congrArg some same)
    exact Bool.or_eq_false_iff.mpr ⟨ends, beq_eq_false_iff_ne.mpr differs⟩

theorem of_head (ahead : (lexemes.map Lexeme.token).head? = some token) :
    ∃ lexeme rest, lexemes = lexeme :: rest ∧ lexeme.token = token := by
  cases lexemes with
  | nil => cases ahead
  | cons lexeme rest => exact ⟨lexeme, rest, rfl, Option.some.inj ahead⟩

theorem advance_choice (complete : stage ≠ .operand) (ends : continuesChoice token = false)
    (closed : token = .rightParen → groups = 0) : advance (stage, groups) token = none := by
  cases token with
  | rightParen =>
    obtain rfl := closed rfl
    cases stage <;> rfl
  | literal | word | leftParen => cases stage <;> first | rfl | exact absurd rfl complete
  | _ => cases ends

theorem advance_counted (operator : Parse.isOperator token = true) : advance (.counted, groups) token = none := by
  cases token <;> first | rfl | cases operator

theorem answers_group {parser : Parse Tree} (range : Location) (inner : Diagnoses bound .choice parser)
    (enough : rest.length ≤ bound) :
    Answers (parser >>= fun tree => Parse.closeGroup >>= fun _ => pure tree) rest
      (Taken .primary (⟨.leftParen, range⟩ :: rest)) (Blames groups (⟨.leftParen, range⟩ :: rest)) := by
  have opened : Leads groups [⟨.leftParen, range⟩] (.operand, groups + 1) := rfl
  apply ((inner (groups + 1) rest enough).behind opened).bind
  rintro tree left ⟨used, rfl, phrase, ends⟩
  obtain ⟨stage, complete, inside⟩ := phrase.leads (groups + 1)
  have led : Leads groups (⟨.leftParen, range⟩ :: used) (stage, groups + 1) := opened.behind inside
  have closed : Answers Parse.closeGroup left (fun _ rest => ∃ range, left = ⟨.rightParen, range⟩ :: rest)
      (Blames groups (⟨.leftParen, range⟩ :: (used ++ left))) := by
    apply answers_closeGroup
    · rintro rfl
      rw [List.append_nil]
      exact .ended led
    · rintro ⟨_, range⟩ rest rfl rfl
      exact ⟨range, rfl⟩
    · rintro lexeme rest rfl other fault
      exact .stuck rfl led (advance_choice complete ends fun closes => absurd closes other)
  apply closed.bind
  rintro _ behind ⟨range', rfl⟩
  refine answers_pure ⟨⟨.leftParen, range⟩ :: (used ++ [⟨.rightParen, range'⟩]), by simp, ?_, primary_stops _⟩
  simpa using Phrase.group phrase

theorem diagnoses_primary (inner : ∀ parser, group = some parser → Diagnoses bound .choice parser) :
    Diagnoses bound .primary (Parse.primary group) := by
  intro groups lexemes enough
  apply Answers.peek
  cases lexemes with
  | nil => exact answers_ended (.ended rfl)
  | cons lexeme rest =>
    obtain ⟨token, range⟩ := lexeme
    cases token with
    | literal text =>
      exact .skip (answers_pure ⟨[⟨.literal text, range⟩], rfl, .literal text, primary_stops rest⟩)
    | leftParen =>
      apply Answers.skip
      cases group with
      | none => exact answers_nestedTooDeeply .deep
      | some parser => exact answers_group range (inner parser rfl) (Nat.le_of_succ_le enough)
    | _ => exact answers_unexpected fun _ => .stuck (List.nil_append _).symm (leads_nil groups) rfl

/-- The loop is at the end of a modified term, or at that of a primary that has no repeat count behind it. -/
theorem answers_modifiers (fuel : rest.length ≤ loops) (split : all = used ++ rest)
    (phrase : Phrase .modified (used.map Lexeme.token) tree.expression)
    (led : Leads groups used (stage, groups))
    (place : stage = .modified ∨ stage = .primary ∧ ∀ count, (rest.map Lexeme.token).head? ≠ some (.times count)) :
    Answers (Parse.modifiers loops tree) rest (Taken .term all) (Blames groups all) := by
  induction loops generalizing used rest tree stage with
  | zero =>
    obtain rfl := List.eq_nil_of_length_eq_zero (Nat.eq_zero_of_le_zero fuel)
    exact answers_pure ⟨used, split, .uncounted phrase, rfl⟩
  | succ loops ih =>
    apply Answers.peek
    split
    next count ahead =>
      obtain ⟨lexeme, others, rfl, same⟩ := of_head ahead
      rcases place with rfl | ⟨_, single⟩
      · exact answers_unexpected fun _ => .stuck split led (by rw [same]; rfl)
      · exact absurd ahead (single count)
    next token counted ahead =>
      obtain ⟨lexeme, others, rfl, rfl⟩ := of_head ahead
      split
      next modifier known =>
        have same := token_modifier? known
        have ends : Category.modified.EndsWith stage := place.symm.imp And.left id
        have longer : Phrase .modified ((used ++ [lexeme]).map Lexeme.token)
            (.modified tree.expression modifier) := by
          rw [List.map_append, List.map_singleton, same]
          exact .modified phrase modifier
        have advanced : advance (stage, groups) lexeme.token = some (.modified, groups) := by
          rw [same, advance_modifier ends]
        refine .skip (.grow ?_ .deep)
        exact ih (Nat.le_of_succ_le_succ fuel) (by simpa using split) longer (led.next advanced) (.inl rfl)
      next plain =>
        have stops : Parse.isOperator lexeme.token = false := by
          rw [Parse.isOperator, plain]
          · rfl
          · exact counted
        exact answers_pure ⟨used, split, .uncounted phrase, stops⟩
    next ahead =>
      obtain rfl : rest = [] := by simpa using ahead
      exact answers_pure ⟨used, split, .uncounted phrase, rfl⟩

theorem diagnoses_term (inner : ∀ parser, group = some parser → Diagnoses bound .choice parser) :
    Diagnoses bound .term (Parse.term bound group) := by
  intro groups lexemes enough
  apply (diagnoses_primary inner groups lexemes enough).bind
  rintro tree rest ⟨used, rfl, phrase, _⟩
  obtain ⟨stage, rfl, led⟩ := phrase.leads groups
  have fuel : rest.length ≤ bound := Nat.le_trans (by simp) enough
  apply Answers.peek
  split
  next count ahead =>
    obtain ⟨lexeme, others, rfl, same⟩ := of_head ahead
    have whole : used ++ lexeme :: others = used ++ [lexeme] ++ others := by simp
    have counted : Leads groups (used ++ [lexeme]) (.counted, groups) := led.next (by rw [same]; rfl)
    apply Answers.skip
    apply Answers.peek
    split
    next operator =>
      cases others with
      | nil => cases operator
      | cons next later => exact answers_unexpected fun _ => .stuck whole counted (advance_counted operator)
    next plain =>
      have longer : Phrase .term ((used ++ [lexeme]).map Lexeme.token) (.times tree.expression count) := by
        rw [List.map_append, List.map_singleton, same]
        exact .times phrase count
      exact answers_grow ⟨used ++ [lexeme], whole, longer, eq_false_of_ne_true plain⟩ .deep
  next single => exact answers_modifiers fuel rfl (.plain phrase) led (.inr ⟨rfl, single⟩)

theorem answers_joinTerms {operand : Parse Tree} (term : Diagnoses bound .term operand)
    (enough : rest.length ≤ bound) (fuel : rest.length ≤ loops) (split : all = used ++ rest)
    (phrase : Phrase .sequence (used.map Lexeme.token) left.expression)
    (stops : (rest.map Lexeme.token).head?.any Parse.isOperator = false) :
    Answers (Parse.joinTerms operand loops left) rest (Taken .sequence all) (Blames groups all) := by
  induction loops generalizing used rest left with
  | zero =>
    obtain rfl := List.eq_nil_of_length_eq_zero (Nat.eq_zero_of_le_zero fuel)
    exact answers_pure ⟨used, split, phrase, rfl⟩
  | succ loops ih =>
    apply Answers.peek
    split
    next ahead =>
      obtain ⟨lexeme, others, rfl, same⟩ := of_head ahead
      obtain ⟨stage, complete, led⟩ := phrase.leads groups
      have joined : Leads groups (used ++ [lexeme]) (.operand, groups) :=
        led.next (by rw [same, (advance_join complete).1])
      apply Answers.skip
      apply (term.joined split joined enough).bind
      rintro right behind ⟨used', rfl, phrase', stops'⟩
      have longer : Phrase .sequence ((used ++ lexeme :: used').map Lexeme.token)
          (.sequence left.expression right.expression) := by
        rw [List.map_append, List.map_cons, same]
        exact .sequence phrase phrase'
      simp only [List.length_cons, List.length_append] at enough fuel
      refine .grow ?_ .deep
      exact ih (by omega) (by omega) (by simpa using split) longer stops'
    next other => exact answers_pure ⟨used, split, phrase, head_any_or stops other⟩

theorem diagnoses_sequence (inner : ∀ parser, group = some parser → Diagnoses bound .choice parser) :
    Diagnoses bound .sequence (Parse.sequence bound group) := by
  intro groups lexemes enough
  have term := diagnoses_term inner
  apply (term groups lexemes enough).bind
  rintro left rest ⟨used, rfl, phrase, stops⟩
  have fuel : rest.length ≤ bound := Nat.le_trans (by simp) enough
  exact answers_joinTerms term fuel fuel rfl (.single phrase) stops

/-- The tokens are further alternatives with these trees. -/
inductive Alternatives : List Token → List Tree → Prop where
  | nil : Alternatives [] []
  | cons {tokens tree more others} (phrase : Phrase .sequence tokens tree.expression)
      (behind : Alternatives more others) : Alternatives (.or_ :: (tokens ++ more)) (tree :: others)

theorem answers_alternatives {sequence : Parse Tree} (parses : Diagnoses bound .sequence sequence)
    (enough : rest.length ≤ bound) (fuel : rest.length ≤ loops) (split : all = used ++ rest)
    (led : Leads groups used (stage, groups)) (complete : stage ≠ .operand)
    (stops : (rest.map Lexeme.token).head?.any continuesSequence = false) :
    Answers (Parse.alternatives sequence loops) rest (fun trees behind => ∃ taken, rest = taken ++ behind ∧
      Alternatives (taken.map Lexeme.token) trees ∧ (behind.map Lexeme.token).head?.any continuesChoice = false)
      (Blames groups all) := by
  -- Every round takes a token, so with a round for each of them the loop does not end before it has to.
  induction loops generalizing used rest stage with
  | zero =>
    obtain rfl := List.eq_nil_of_length_eq_zero (Nat.eq_zero_of_le_zero fuel)
    exact answers_pure ⟨[], rfl, .nil, rfl⟩
  | succ loops ih =>
    apply Answers.peek
    split
    next ahead =>
      obtain ⟨lexeme, others, rfl, same⟩ := of_head ahead
      have joined : Leads groups (used ++ [lexeme]) (.operand, groups) :=
        led.next (by rw [same, (advance_join complete).2.1])
      apply Answers.skip
      apply (parses.joined split joined enough).bind
      rintro tree behind ⟨used', rfl, phrase, stops'⟩
      obtain ⟨stage', complete', further⟩ := phrase.leads groups
      simp only [List.length_cons, List.length_append] at enough fuel
      apply (ih (by omega) (by omega) (by simpa using split) (joined.behind further) complete' stops').bind
      rintro trees last ⟨taken, rfl, alternatives, ends⟩
      refine answers_pure ⟨lexeme :: (used' ++ taken), by simp, ?_, ends⟩
      rw [List.map_cons, List.map_append, same]
      exact .cons phrase alternatives
    next other => exact answers_pure ⟨[], rfl, .nil, head_any_or stops other⟩

theorem answers_joinAlternatives {tokens more : List Token} {others : List Tree}
    (alternatives : Alternatives more others) (phrase : Phrase .sequence tokens left.expression) :
    Answers (Parse.joinAlternatives left others) rest
      (fun tree behind => behind = rest ∧ Phrase .choice (tokens ++ more) tree.expression) (Blames groups all) := by
  induction alternatives generalizing tokens left with
  | nil => exact answers_pure ⟨rfl, by rw [List.append_nil]; exact .only phrase⟩
  | cons next _ ih =>
    apply (ih next).bind
    rintro right _ ⟨rfl, others⟩
    exact answers_grow ⟨rfl, .choice phrase others⟩ .deep

theorem diagnoses_choice (inner : ∀ parser, group = some parser → Diagnoses bound .choice parser) :
    Diagnoses bound .choice (Parse.choice bound group) := by
  intro groups lexemes enough
  have sequence := diagnoses_sequence inner
  apply (sequence groups lexemes enough).bind
  rintro left behind ⟨used, rfl, phrase, stops⟩
  obtain ⟨stage, complete, led⟩ := phrase.leads groups
  have fuel : behind.length ≤ bound := Nat.le_trans (by simp) enough
  apply (answers_alternatives sequence fuel fuel rfl led complete stops).bind
  rintro others rest ⟨taken, rfl, alternatives, ends⟩
  apply (answers_joinAlternatives alternatives phrase).mono
  · rintro tree _ ⟨rfl, whole⟩
    exact ⟨used ++ taken, (List.append_assoc ..).symm, by rwa [List.map_append], ends⟩
  · exact fun _ => id

theorem diagnoses_expression (bound room : Nat) : Diagnoses bound .choice (Parse.expression bound room) := by
  induction room with
  | zero => exact diagnoses_choice nofun
  | succ room ih =>
    apply diagnoses_choice
    intro parser same
    cases same
    exact ih

theorem sees_ofList (lexemes : List Lexeme) : Sees ⟨Lookahead.ofList 2 lexemes, {}⟩ lexemes :=
  ⟨Lookahead.full_ofList 2 lexemes, rfl, Lookahead.toList_ofList 2 lexemes⟩

/-- What is read is a phrase of all the tokens, and what is not read is blamed on the first that no expression goes
on with. -/
theorem answers_whole (lexemes : List Lexeme) : Answers (Parse.whole lexemes.length) lexemes
    (fun expression _ => Phrase .choice (lexemes.map Lexeme.token) expression) (Blames 0 lexemes) := by
  apply (diagnoses_expression _ _ 0 lexemes (Nat.le_refl _)).bind
  rintro tree rest ⟨used, split, phrase, ends⟩
  apply Answers.peek
  cases rest with
  | nil =>
    rw [List.append_nil] at split
    exact answers_pure (split ▸ phrase)
  | cons lexeme others =>
    obtain ⟨stage, complete, led⟩ := phrase.leads 0
    exact answers_unexpected fun _ => .stuck split led (advance_choice complete ends fun _ => rfl)

theorem ofTokens_cases (lexemes : List Lexeme) :
    (∃ expression, Expression.ofTokens lexemes = .ok expression ∧
      Phrase .choice (lexemes.map Lexeme.token) expression) ∨
    ∃ error, Expression.ofTokens lexemes = .error error ∧ Blames 0 lexemes error := by
  have answered := answers_whole lexemes _ (sees_ofList lexemes)
  rw [Expression.ofTokens]
  cases ran : Parse.whole lexemes.length ⟨Lookahead.ofList 2 lexemes, {}⟩ with
  | error error =>
    rw [ran] at answered
    exact .inr ⟨error, rfl, answered⟩
  | ok found =>
    rw [ran] at answered
    obtain ⟨_, _, phrase⟩ := answered
    exact .inl ⟨found.1, rfl, phrase⟩

end Diagnosing

end Peg.Proofs
