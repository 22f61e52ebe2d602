import Peg.Expression.Parser
import Peg.Proofs.Phrase

/-! How the parser reads tokens, level by level of the grammar. Tokens without a fault of syntax it
either passes over, or it finds the nesting too deep. -/

namespace Peg

namespace Expression

def tree (expression : Expression) : Tree := ⟨expression, expression.height⟩

end Expression

namespace Proofs

/-- The lexemes are what is left for the cursor. -/
structure Sees (cursor : Cursor) (lexemes : List Lexeme) : Prop where
  full : cursor.ahead.Full
  wide : cursor.ahead.width = 2
  ahead : cursor.ahead.toList = lexemes

structure Shows (cursor : Cursor) (tokens : List Token) : Prop where
  full : cursor.ahead.Full
  wide : cursor.ahead.width = 2
  ahead : cursor.ahead.toList.map Lexeme.token = tokens

/-- The parser passes over tokens and has a value, if it fits; else it finds the nesting too deep. -/
def Yields {α : Type} (parser : Parse α) (before : List Token) (fits : Prop) (value : α)
    (after : List Token) : Prop :=
  ∀ cursor, Shows cursor before →
    (fits → ∃ next, parser cursor = .ok (value, next) ∧ Shows next after) ∧
    (¬ fits → ∃ location, parser cursor = .error (.located .nestedTooDeeply location))

section Yielding
variable {α β : Type} {parser : Parse α} {before middle after : List Token} {fits fits' : Prop}
  {value : α} {result : β}

theorem Yields.congr (yields : Yields parser before fits value after) (same : fits ↔ fits') :
    Yields parser before fits' value after := by
  intro cursor shows
  obtain ⟨passes, deep⟩ := yields cursor shows
  constructor
  · intro holds
    exact passes (same.mpr holds)
  · intro fails
    exact deep (mt same.mp fails)

theorem yields_pure : Yields (pure value) before True value before := by
  intro cursor shows
  exact ⟨fun _ => ⟨cursor, rfl, shows⟩, fun impossible => absurd trivial impossible⟩

theorem Yields.bind {next : α → Parse β} (first : Yields parser before fits value middle)
    (second : fits → Yields (next value) middle fits' result after) :
    Yields (parser >>= next) before (fits ∧ fits') result after := by
  intro cursor shows
  by_cases holds : fits
  · obtain ⟨reached, ran, shown⟩ := (first cursor shows).1 holds
    have same : (parser >>= next) cursor = next value reached := by
      simp only [Bind.bind, StateT.bind, ran, Except.bind]
    have rest := second holds reached shown
    rw [same]
    constructor
    · intro both
      exact rest.1 both.2
    · intro fails
      apply rest.2
      intro holds'
      exact fails ⟨holds, holds'⟩
  · obtain ⟨location, failed⟩ := (first cursor shows).2 holds
    refine ⟨fun both => absurd both.1 holds, fun _ => ⟨location, ?_⟩⟩
    simp only [Bind.bind, StateT.bind, failed, Except.bind]

theorem Yields.pass {next : α → Parse β} (first : Yields parser before True value middle)
    (second : Yields (next value) middle fits result after) :
    Yields (parser >>= next) before fits result after :=
  (first.bind fun _ => second).congr (Iff.of_eq (true_and _))

end Yielding

section Cursors
variable {cursor : Cursor} {lexeme : Lexeme} {lexemes others : List Lexeme} {token : Token}
  {tokens rest : List Token}

theorem Sees.peek (sees : Sees cursor lexemes) : cursor.ahead.peek 0 = lexemes.head? := by
  obtain ⟨full, wide, rfl⟩ := sees
  rw [Lookahead.peek_eq full, wide, if_pos (Nat.succ_pos 1), List.head?_eq_getElem?]

theorem Sees.next (sees : Sees cursor (lexeme :: others)) : ∃ after,
    Parse.next cursor = .ok (some lexeme.token, after) ∧ Sees after others ∧ after.last = lexeme.range := by
  obtain ⟨full, wide, ahead⟩ := sees
  obtain ⟨head, tail⟩ := Lookahead.next_eq full (wide ▸ Nat.succ_pos 1)
  rw [ahead] at head tail
  refine ⟨⟨cursor.ahead.next.2, lexeme.range⟩, ?_, ?_, rfl⟩
  · rw [Parse.next]
    split
    · next found =>
      rw [found] at head
      cases head
      rw [found]
    · next found =>
      rw [found] at head
      cases head
  · exact ⟨Lookahead.full_next full, (Lookahead.width_next _).trans wide, tail⟩

theorem Sees.ended (sees : Sees cursor []) : ∃ after, Parse.next cursor = .ok (none, after) := by
  obtain ⟨full, wide, ahead⟩ := sees
  obtain ⟨head, _⟩ := Lookahead.next_eq full (wide ▸ Nat.succ_pos 1)
  rw [ahead] at head
  rw [Parse.next]
  split
  · next found =>
    rw [found] at head
    cases head
  · exact ⟨_, rfl⟩

theorem Sees.shows (sees : Sees cursor lexemes) : Shows cursor (lexemes.map Lexeme.token) :=
  ⟨sees.full, sees.wide, congrArg (List.map _) sees.ahead⟩

theorem Shows.sees (shows : Shows cursor tokens) : Sees cursor cursor.ahead.toList :=
  ⟨shows.full, shows.wide, rfl⟩

theorem Shows.peek (shows : Shows cursor tokens) : (cursor.ahead.peek 0).map Lexeme.token = tokens.head? := by
  rw [shows.sees.peek, ← shows.ahead, List.head?_map]

theorem yields_peek : Yields Parse.peek tokens True tokens.head? tokens := by
  intro cursor shows
  refine ⟨fun _ => ⟨cursor, ?_, shows⟩, fun impossible => absurd trivial impossible⟩
  rw [← shows.peek]
  rfl

theorem yields_next : Yields Parse.next (token :: rest) True (some token) rest := by
  intro cursor shows
  refine ⟨fun _ => ?_, fun impossible => absurd trivial impossible⟩
  obtain ⟨lexeme, others, list, rfl, rfl⟩ := List.map_eq_cons_iff.mp shows.ahead
  have sees := shows.sees
  rw [list] at sees
  obtain ⟨after, ran, left, _⟩ := sees.next
  exact ⟨after, ran, left.shows⟩

theorem yields_skip : Yields Parse.skip (token :: rest) True () rest :=
  yields_next.pass yields_pure

theorem yields_closeGroup : Yields Parse.closeGroup (.rightParen :: rest) True () rest :=
  yields_next.pass yields_pure

theorem yields_nestedTooDeeply {α : Type} {value : α} :
    Yields Parse.nestedTooDeeply tokens False value rest := by
  intro cursor _
  exact ⟨fun impossible => impossible.elim, fun _ => ⟨cursor.last.start, rfl⟩⟩

theorem yields_grow {expression : Expression} {height : Nat} : Yields (Parse.grow expression height) tokens
    (height < Expression.maxHeight) ⟨expression, height + 1⟩ tokens := by
  rw [Parse.grow]
  split
  · next high => exact yields_nestedTooDeeply.congr (iff_of_false not_false (Nat.not_lt_of_le high))
  · next low => exact yields_pure.congr (iff_of_true trivial (Nat.lt_of_not_le low))

end Cursors

def inner (bound : Nat) : Nat → Option (Parse Tree)
  | 0 => none
  | room + 1 => some (Parse.expression bound room)

theorem expression_eq (bound room : Nat) : Parse.expression bound room = Parse.choice bound (inner bound room) := by
  cases room <;> rfl

/-- The token goes on with a term, a sequence or a choice. -/
def continuesSequence (token : Token) : Bool := Parse.isOperator token || token == .then_

def continuesChoice (token : Token) : Bool := continuesSequence token || token == .or_

def choices (sequence : Parse Tree) (loops : Nat) : Parse Tree := do
  let first ← sequence
  Parse.joinAlternatives first (← Parse.alternatives sequence loops)

section Following
variable {rest : List Token} {token : Token} {test other : Token → Bool}

theorem head_ne (ends : rest.head?.any test = false) (stop : test token = true) :
    rest.head? ≠ some token := by
  intro found
  rw [found] at ends
  exact absurd stop (Bool.eq_false_iff.mp ends)

theorem head_any_left (ends : rest.head?.any (fun token => test token || other token) = false) :
    rest.head?.any test = false := by
  cases found : rest.head? with
  | none => rfl
  | some token =>
    rw [found] at ends
    exact (Bool.or_eq_false_iff.mp ends).1

end Following

section Levels
variable (bound room : Nat) (tokens : List Token) (expression : Expression) (fits : Prop)

def ReadsPrimary : Prop :=
  ∀ rest, Yields (Parse.primary (inner bound room)) (tokens ++ rest) fits expression.tree rest

/-- The modifiers of a term are read in one loop, which goes on with those behind the tokens. -/
def ReadsModified : Prop :=
  ∃ count ≤ tokens.length, ∀ (more : Nat) (rest : List Token) (fits' : Prop) (result : Tree) (after : List Token),
    (∀ times, rest.head? ≠ some (.times times)) →
    (fits → Yields (Parse.modifiers more expression.tree) rest fits' result after) →
    Yields (Parse.term (count + more) (inner bound room)) (tokens ++ rest) (fits ∧ fits') result after

def ReadsTerm : Prop :=
  ∀ rest, rest.head?.any Parse.isOperator = false →
    Yields (Parse.term bound (inner bound room)) (tokens ++ rest) fits expression.tree rest

def ReadsSequence : Prop :=
  let term := Parse.term bound (inner bound room)
  ∃ count ≤ tokens.length, ∀ (more : Nat) (rest : List Token) (fits' : Prop) (result : Tree) (after : List Token),
    rest.head?.any Parse.isOperator = false →
    (fits → Yields (Parse.joinTerms term more expression.tree) rest fits' result after) →
    Yields (term >>= Parse.joinTerms term (count + more)) (tokens ++ rest) (fits ∧ fits') result after

def ReadsChoice : Prop :=
  ∀ loops rest, tokens.length ≤ loops → rest.head?.any continuesChoice = false →
    Yields (choices (Parse.sequence bound (inner bound room)) loops) (tokens ++ rest) fits expression.tree rest

end Levels

section Loops
variable {rest : List Token} {tree : Tree}

theorem yields_modifiers (more : Nat) (ends : rest.head?.any Parse.isOperator = false) :
    Yields (Parse.modifiers more tree) rest True tree rest := by
  cases more with
  | zero => exact yields_pure
  | succ more =>
    apply yields_peek.pass
    split
    · next found =>
      rw [found] at ends
      cases ends
    · next token _ found =>
      rw [found] at ends
      have none : Parse.modifier? token = none := by
        cases token <;> first | rfl | cases ends
      rw [none]
      exact yields_pure
    · exact yields_pure

theorem yields_joinTerms {term : Parse Tree} (more : Nat) (ends : rest.head? ≠ some .then_) :
    Yields (Parse.joinTerms term more tree) rest True tree rest := by
  cases more with
  | zero => exact yields_pure
  | succ more =>
    apply yields_peek.pass
    split
    · next found => exact absurd found ends
    · exact yields_pure

theorem yields_alternatives {sequence : Parse Tree} (loops : Nat) (ends : rest.head? ≠ some .or_) :
    Yields (Parse.alternatives sequence loops) rest True [] rest := by
  cases loops with
  | zero => exact yields_pure
  | succ loops =>
    apply yields_peek.pass
    split
    · next found => exact absurd found ends
    · exact yields_pure

end Loops

section Climbing
variable {bound room : Nat} {tokens : List Token} {expression : Expression} {fits : Prop}

theorem ReadsPrimary.modified (reads : ReadsPrimary bound room tokens expression fits) :
    ReadsModified bound room tokens expression fits := by
  refine ⟨0, Nat.zero_le _, ?_⟩
  intro more rest fits' result after single goes
  rw [Nat.zero_add]
  apply (reads rest).bind
  intro holds
  apply yields_peek.pass
  split
  · next times found => exact absurd found (single times)
  · exact goes holds

theorem ReadsModified.term (reads : ReadsModified bound room tokens expression fits)
    (enough : tokens.length ≤ bound) : ReadsTerm bound room tokens expression fits := by
  obtain ⟨count, few, reads⟩ := reads
  obtain ⟨more, rfl⟩ := Nat.exists_eq_add_of_le (Nat.le_trans few enough)
  intro rest ends
  have alone := reads more rest _ _ _ (fun _ => head_ne ends rfl) fun _ => yields_modifiers more ends
  exact alone.congr (Iff.of_eq (and_true _))

theorem ReadsTerm.sequence (reads : ReadsTerm bound room tokens expression fits) :
    ReadsSequence bound room tokens expression fits := by
  refine ⟨0, Nat.zero_le _, ?_⟩
  intro more rest fits' result after ends goes
  rw [Nat.zero_add]
  exact (reads rest ends).bind goes

theorem ReadsSequence.whole (reads : ReadsSequence bound room tokens expression fits)
    (enough : tokens.length ≤ bound) {rest : List Token}
    (ends : rest.head?.any continuesSequence = false) :
    Yields (Parse.sequence bound (inner bound room)) (tokens ++ rest) fits expression.tree rest := by
  obtain ⟨count, few, reads⟩ := reads
  obtain ⟨more, rfl⟩ := Nat.exists_eq_add_of_le (Nat.le_trans few enough)
  have alone := reads more rest _ _ _ (head_any_left ends) fun _ => yields_joinTerms more (head_ne ends rfl)
  exact alone.congr (Iff.of_eq (and_true _))

theorem ReadsSequence.choice (reads : ReadsSequence bound room tokens expression fits)
    (enough : tokens.length ≤ bound) : ReadsChoice bound room tokens expression fits := by
  intro loops rest _ ends
  have first := reads.whole enough (head_any_left ends)
  refine Yields.congr (first.bind fun _ => ?_) (Iff.of_eq (and_true _))
  apply (yields_alternatives loops (head_ne ends rfl)).pass
  exact yields_pure

theorem grouped_primary {fits : Nat → Prop} (enough : tokens.length ≤ bound)
    (reads : ∀ room, ReadsChoice bound room tokens expression (fits room)) :
    ReadsPrimary bound room (.leftParen :: (tokens ++ [.rightParen])) expression
      (∃ inner, room = inner + 1 ∧ fits inner) := by
  intro rest
  rw [List.cons_append, List.append_assoc, List.singleton_append]
  apply yields_peek.pass
  apply yields_skip.pass
  cases room with
  | zero => exact yields_nestedTooDeeply.congr (by simp)
  | succ room =>
    have choice := reads room bound (.rightParen :: rest) enough rfl
    have same : fits room ∧ True ↔ ∃ inner, room + 1 = inner + 1 ∧ fits inner := by simp
    dsimp only [inner]
    rw [expression_eq]
    refine Yields.congr (choice.bind fun _ => ?_) same
    exact yields_closeGroup.pass yields_pure

theorem ReadsModified.step (reads : ReadsModified bound room tokens expression fits) (modifier : Modifier) :
    ReadsModified bound room (tokens ++ [modifier.token]) (.modified expression modifier)
      (fits ∧ expression.height < Expression.maxHeight) := by
  -- The loop that reads the modifiers of the part has one more round to go for this one.
  obtain ⟨count, few, reads⟩ := reads
  refine ⟨count + 1, by simpa using few, ?_⟩
  intro more rest fits' result after single goes
  have counted : ∀ times, (modifier.token :: rest).head? ≠ some (.times times) := by
    cases modifier <;> exact fun _ => nofun
  rw [List.append_assoc, Nat.add_assoc, Nat.add_comm 1 more, and_assoc]
  apply reads (more + 1) (modifier.token :: rest) _ _ _ counted
  intro holds
  have next : Parse.modifier? modifier.token = some modifier := by cases modifier <;> rfl
  apply yields_peek.pass
  cases modifier <;> exact yields_skip.pass (yields_grow.bind fun low => goes ⟨holds, low⟩)

theorem ReadsPrimary.times (reads : ReadsPrimary bound room tokens expression fits) (count : Nat) :
    ReadsTerm bound room (tokens ++ [.times count]) (.times expression count)
      (fits ∧ expression.height < Expression.maxHeight) := by
  intro rest ends
  rw [List.append_assoc, List.singleton_append]
  apply (reads _).bind
  intro _
  apply yields_peek.pass
  apply yields_skip.pass
  apply yields_peek.pass
  rw [ends]
  exact yields_grow

theorem ReadsSequence.step {next : List Token} {right : Expression} {fits' : Prop}
    (reads : ReadsSequence bound room tokens expression fits)
    (reads' : ReadsTerm bound room next right fits') :
    ReadsSequence bound room (tokens ++ .then_ :: next) (.sequence expression right)
      (fits ∧ fits' ∧ max expression.height right.height < Expression.maxHeight) := by
  obtain ⟨count, few, reads⟩ := reads
  refine ⟨count + 1, by simp; omega, ?_⟩
  intro more rest fits'' result after ends goes
  rw [List.append_assoc, Nat.add_assoc, Nat.add_comm 1 more, and_assoc, and_assoc]
  apply reads (more + 1) (.then_ :: (next ++ rest)) _ _ _ rfl
  intro holds
  apply yields_peek.pass
  apply yields_skip.pass
  apply (reads' rest ends).bind
  intro holds'
  exact yields_grow.bind fun low => goes ⟨holds, holds', low⟩

theorem ReadsSequence.join {next : List Token} {right : Expression} {fits' : Prop}
    (reads : ReadsSequence bound room tokens expression fits) (enough : tokens.length ≤ bound)
    (reads' : ReadsChoice bound room next right fits') :
    ReadsChoice bound room (tokens ++ .or_ :: next) (.choice expression right)
      (fits ∧ fits' ∧ max expression.height right.height < Expression.maxHeight) := by
  intro loops rest many ends
  rw [List.append_assoc, List.cons_append]
  have room' : next.length + 1 ≤ loops := by
    rw [List.length_append, List.length_cons] at many
    omega
  obtain ⟨loops, rfl⟩ := Nat.exists_eq_add_of_le' (Nat.le_trans (Nat.le_add_left 1 _) room')
  -- The alternatives behind the first would be a choice of their own; the tree joins them to it.
  have others : Yields
      (choices (Parse.sequence bound (inner bound room)) loops >>= fun tree =>
        Parse.grow (.choice expression tree.expression) (max expression.height tree.height))
      (next ++ rest) (fits' ∧ _) (Expression.choice expression right).tree rest :=
    (reads' loops rest (Nat.le_of_succ_le_succ room') ends).bind fun _ => yields_grow
  apply (reads.whole enough rfl).bind
  intro _
  rw [Parse.alternatives, bind_assoc]
  apply yields_peek.pass
  simp only [List.head?_cons, bind_assoc, pure_bind]
  apply yields_skip.pass
  simp only [choices, bind_assoc] at others
  exact others

end Climbing

end Proofs
end Peg
