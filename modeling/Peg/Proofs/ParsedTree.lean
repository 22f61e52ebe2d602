import Peg.Expression.Parser

/-! The trees of the parser: each carries the height of its expression, none is higher than the
bound, and their repeat counts come from the tokens. -/

namespace Peg

def Token.Counted : Token → Prop
  | .times count => count < UInt64.size
  | _ => True

def Expression.Counted : Expression → Prop
  | .literal _ => True
  | .modified inner _ => inner.Counted
  | .times inner count => inner.Counted ∧ count < UInt64.size
  | .sequence left right | .choice left right => left.Counted ∧ right.Counted

structure Tree.Valid (tree : Tree) : Prop where
  same : tree.height = tree.expression.height
  low : tree.height ≤ Expression.maxHeight
  counted : tree.expression.Counted

namespace Proofs

/-- The tokens that are left have counts of 64 bits. -/
def Counted (cursor : Cursor) : Prop := ∀ lexeme ∈ cursor.ahead.toList, lexeme.token.Counted

/-- What the parser finds in such tokens has a property. -/
def Ensures {α : Type} (parser : Parse α) (property : α → Prop) : Prop :=
  ∀ cursor value next, Counted cursor → parser cursor = .ok (value, next) → property value ∧ Counted next

section Ensuring
variable {α β : Type} {parser : Parse α} {property : α → Prop} {result : β → Prop}

theorem ensures_pure {value : α} (holds : property value) : Ensures (pure value) property := by
  intro cursor other next counted ran
  cases ran
  exact ⟨holds, counted⟩

theorem Ensures.bind {next : α → Parse β} (first : Ensures parser property)
    (second : ∀ value, property value → Ensures (next value) result) : Ensures (parser >>= next) result := by
  intro cursor found last counted ran
  simp only [Bind.bind, StateT.bind, Except.bind] at ran
  split at ran
  · cases ran
  next reached =>
    obtain ⟨holds, counted⟩ := first _ _ _ counted reached
    exact second _ holds _ _ _ counted ran

theorem ensures_peek : Ensures Parse.peek fun token => ∀ found, token = some found → found.Counted := by
  intro cursor token next counted ran
  cases ran
  refine ⟨?_, counted⟩
  intro found same
  obtain ⟨lexeme, seen, rfl⟩ := Option.map_eq_some_iff.mp same
  exact counted lexeme (Lookahead.mem_of_peek seen)

theorem ensures_next : Ensures Parse.next fun _ => True := by
  intro cursor token next counted ran
  have counted' : ∀ lexeme ∈ cursor.ahead.next.2.toList, lexeme.token.Counted := by
    intro lexeme left
    exact counted lexeme (Lookahead.mem_of_mem_next left)
  unfold Parse.next at ran
  split at ran
  all_goals
    next found =>
    rw [found] at counted'
    cases ran
    exact ⟨trivial, counted'⟩

theorem ensures_skip : Ensures Parse.skip fun _ => True :=
  ensures_next.bind fun _ _ => ensures_pure trivial

theorem ensures_get : Ensures (get : Parse Cursor) fun _ => True := by
  intro cursor value next counted ran
  cases ran
  exact ⟨trivial, counted⟩

theorem ensures_throw {error : SyntaxError} : Ensures (throw error) property := by
  intro cursor value next _ ran
  cases ran

theorem ensures_nestedTooDeeply : Ensures Parse.nestedTooDeeply property :=
  ensures_get.bind fun _ _ => ensures_throw

theorem ensures_unexpected {expected : Expectation} : Ensures (Parse.unexpected expected) property := by
  apply ensures_get.bind
  intro cursor _
  split <;> exact ensures_throw

theorem ensures_closeGroup : Ensures Parse.closeGroup fun _ => True := by
  apply ensures_next.bind
  intro token _
  split
  · exact ensures_pure trivial
  · exact ensures_get.bind fun _ _ => ensures_throw
  · exact ensures_throw

end Ensuring

section Trees
variable {expression : Expression} {left right : Tree}

theorem ensures_grow {height : Nat} (same : expression.height = height + 1) (counted : expression.Counted) :
    Ensures (Parse.grow expression height) Tree.Valid := by
  rw [Parse.grow]
  split
  · exact ensures_nestedTooDeeply
  · next low => exact ensures_pure ⟨same.symm, Nat.lt_of_not_le low, counted⟩

theorem ensures_modified (valid : left.Valid) (modifier : Modifier) :
    Ensures (Parse.grow (.modified left.expression modifier) left.height) Tree.Valid :=
  ensures_grow (congrArg (· + 1) valid.same.symm) valid.counted

theorem ensures_times (valid : left.Valid) {count : Nat} (counted : count < UInt64.size) :
    Ensures (Parse.grow (.times left.expression count) left.height) Tree.Valid :=
  ensures_grow (congrArg (· + 1) valid.same.symm) ⟨valid.counted, counted⟩

theorem ensures_sequence (valid : left.Valid) (valid' : right.Valid) :
    Ensures (Parse.grow (.sequence left.expression right.expression) (max left.height right.height)) Tree.Valid :=
  ensures_grow (by rw [Expression.height, valid.same, valid'.same]) ⟨valid.counted, valid'.counted⟩

theorem ensures_choice (valid : left.Valid) (valid' : right.Valid) :
    Ensures (Parse.grow (.choice left.expression right.expression) (max left.height right.height)) Tree.Valid :=
  ensures_grow (by rw [Expression.height, valid.same, valid'.same]) ⟨valid.counted, valid'.counted⟩

theorem ensures_primary {group : Option (Parse Tree)}
    (inner : ∀ parser, group = some parser → Ensures parser Tree.Valid) :
    Ensures (Parse.primary group) Tree.Valid := by
  apply ensures_peek.bind
  intro token _
  split
  · exact ensures_skip.bind fun _ _ => ensures_pure ⟨rfl, Nat.le_add_left 1 255, trivial⟩
  · apply ensures_skip.bind
    intro _ _
    cases group with
    | none => exact ensures_nestedTooDeeply
    | some parser =>
      apply (inner parser rfl).bind
      intro tree valid
      exact ensures_closeGroup.bind fun _ _ => ensures_pure valid
  · exact ensures_unexpected

theorem ensures_modifiers (bound : Nat) (valid : left.Valid) :
    Ensures (Parse.modifiers bound left) Tree.Valid := by
  induction bound generalizing left with
  | zero => exact ensures_pure valid
  | succ bound ih =>
    apply ensures_peek.bind
    intro token _
    split
    · exact ensures_unexpected
    · split
      · exact ensures_skip.bind fun _ _ => (ensures_modified valid _).bind fun _ valid => ih valid
      · exact ensures_pure valid
    · exact ensures_pure valid

theorem ensures_term {group : Option (Parse Tree)} (bound : Nat)
    (inner : ∀ parser, group = some parser → Ensures parser Tree.Valid) :
    Ensures (Parse.term bound group) Tree.Valid := by
  apply (ensures_primary inner).bind
  intro tree valid
  apply ensures_peek.bind
  intro token counted
  split
  · next count =>
    apply ensures_skip.bind
    intro _ _
    apply ensures_peek.bind
    intro _ _
    split
    · exact ensures_unexpected
    · exact ensures_times valid (counted _ rfl)
  · exact ensures_modifiers bound valid

theorem ensures_joinTerms {term : Parse Tree} (reads : Ensures term Tree.Valid) (bound : Nat)
    (valid : left.Valid) : Ensures (Parse.joinTerms term bound left) Tree.Valid := by
  induction bound generalizing left with
  | zero => exact ensures_pure valid
  | succ bound ih =>
    apply ensures_peek.bind
    intro token _
    split
    · apply ensures_skip.bind
      intro _ _
      apply reads.bind
      intro right valid'
      exact (ensures_sequence valid valid').bind fun _ valid => ih valid
    · exact ensures_pure valid

theorem ensures_alternatives {sequence : Parse Tree} (reads : Ensures sequence Tree.Valid) (bound : Nat) :
    Ensures (Parse.alternatives sequence bound) fun trees => ∀ tree ∈ trees, tree.Valid := by
  induction bound with
  | zero => exact ensures_pure nofun
  | succ bound ih =>
    apply ensures_peek.bind
    intro token _
    split
    · apply ensures_skip.bind
      intro _ _
      apply reads.bind
      intro tree valid
      apply ih.bind
      intro others all
      exact ensures_pure (List.forall_mem_cons.mpr ⟨valid, all⟩)
    · exact ensures_pure nofun

theorem ensures_joinAlternatives (valid : left.Valid) {others : List Tree}
    (all : ∀ tree ∈ others, tree.Valid) : Ensures (Parse.joinAlternatives left others) Tree.Valid := by
  induction others generalizing left with
  | nil => exact ensures_pure valid
  | cons next others ih =>
    obtain ⟨valid', all⟩ := List.forall_mem_cons.mp all
    exact (ih valid' all).bind fun _ valid' => ensures_choice valid valid'

theorem ensures_choices {group : Option (Parse Tree)} (bound : Nat)
    (inner : ∀ parser, group = some parser → Ensures parser Tree.Valid) :
    Ensures (Parse.choice bound group) Tree.Valid := by
  have term := ensures_term bound inner
  have sequence : Ensures (Parse.sequence bound group) Tree.Valid :=
    term.bind fun _ valid => ensures_joinTerms term bound valid
  apply sequence.bind
  intro _ valid
  apply (ensures_alternatives sequence bound).bind
  intro _ all
  exact ensures_joinAlternatives valid all

theorem ensures_expression (bound room : Nat) : Ensures (Parse.expression bound room) Tree.Valid := by
  induction room with
  | zero => exact ensures_choices bound nofun
  | succ room ih =>
    apply ensures_choices bound
    intro parser same
    cases same
    exact ih

theorem ensures_whole (bound : Nat) : Ensures (Parse.whole bound) fun expression =>
    expression.height ≤ Expression.maxHeight ∧ expression.Counted := by
  apply (ensures_expression bound _).bind
  intro tree valid
  apply ensures_peek.bind
  intro token _
  split
  · exact ensures_unexpected
  · exact ensures_pure ⟨valid.same ▸ valid.low, valid.counted⟩

end Trees

theorem ofTokens_valid {lexemes : List Lexeme} {expression : Expression}
    (counted : ∀ lexeme ∈ lexemes, lexeme.token.Counted) (parsed : Expression.ofTokens lexemes = .ok expression) :
    expression.height ≤ Expression.maxHeight ∧ expression.Counted := by
  rw [Expression.ofTokens] at parsed
  cases ran : Parse.whole lexemes.length ⟨Lookahead.ofList 2 lexemes, {}⟩ with
  | error =>
    rw [ran] at parsed
    cases parsed
  | ok found =>
    rw [ran] at parsed
    cases parsed
    have counted : Counted ⟨Lookahead.ofList 2 lexemes, {}⟩ := by
      intro lexeme member
      rw [Lookahead.toList_ofList] at member
      exact counted lexeme member
    exact (ensures_whole _ _ _ _ counted ran).1

end Proofs
end Peg
