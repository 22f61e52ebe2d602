import Peg.Proofs.Emission
import Peg.Proofs.RoundTrip

/-! Which expressions have a grammar. Two things keep an expression from having one, its height and an empty
repetition, and the reader of expressions has the same bound on the height. Nodes that were appended before
either of them is found stay in the draft; they are sound for themselves. -/

namespace Peg.Proofs

/-- Consecutive nodes that refer to earlier places only, the first of them at `base`. -/
def Backward : Nat → List Node → Prop := Along fun place node => ∀ child ∈ node.children, child < place

/-- On every draft the action fails in this way, and the nodes that it has appended refer to earlier places. -/
def Fails {α : Type} (action : CheckedDrafting α) (error : BuildError) : Prop :=
  ∀ draft, ∃ nodes, action.run draft = (.error error, draft.extend nodes) ∧ Backward draft.size nodes

section Failing
variable {α β : Type} {action : CheckedDrafting α} {next : α → CheckedDrafting β} {error : BuildError}

theorem extend_nil (draft : Draft) : draft.extend [] = draft := by
  simp [Draft.extend]

theorem fails_throw (error : BuildError) : Fails (throw error : CheckedDrafting α) error := by
  intro draft
  refine ⟨[], ?_, along_nil⟩
  rw [extend_nil]
  rfl

theorem Fails.andThen (fails : Fails action error) : Fails (action >>= next) error := by
  intro draft
  obtain ⟨nodes, ran, backward⟩ := fails draft
  refine ⟨nodes, ?_, backward⟩
  simp only [ExceptT.run, bind, ExceptT.bind, ExceptT.mk, StateT.bind] at ran ⊢
  rw [ran]
  rfl

theorem backward_nodes (expression : Expression) (base : Nat) : Backward base (expression.nodes base) := by
  have placed : Placed _ base (expression.nodes base) := placed_nodes expression (Nat.lt_succ_self _)
  intro index node found child member
  exact (placed index node found child member).2 (isRule_nodes expression base node (List.mem_of_getElem? found))

theorem Fails.behind {expression : Expression} {room : Nat} {next : Nat → CheckedDrafting β}
    (low : expression.height ≤ room) (repeats : expression.Repeats) (fails : ∀ place, Fails (next place) error) :
    Fails (expression.emit room >>= next) error := by
  intro draft
  have part := run_emit draft low repeats
  obtain ⟨nodes, ran, backward⟩ := fails (draft.size + expression.rootPlace)
    (draft.extend (expression.nodes draft.size))
  rw [size_extend] at backward
  refine ⟨expression.nodes draft.size ++ nodes, ?_, along_append.mpr ⟨backward_nodes expression _, backward⟩⟩
  rw [run_bind part, ran, extend_append]

end Failing

/-- The error says what is wrong with an expression, where it may have such a height. -/
def Faulty (room : Nat) (expression : Expression) (error : BuildError) : Prop :=
  (error = .nestedTooDeeply ∧ room < expression.height) ∨ (error = .emptyRepeat ∧ ¬ expression.Repeats)

theorem Faulty.whole {part whole : Expression} {room : Nat} {error : BuildError} (faulty : Faulty room part error)
    (higher : part.height + 1 ≤ whole.height) (repeats : whole.Repeats → part.Repeats) :
    Faulty (room + 1) whole error := by
  refine faulty.imp ?_ ?_
  · rintro ⟨same, high⟩
    exact ⟨same, Nat.lt_of_lt_of_le (Nat.succ_lt_succ high) higher⟩
  · rintro ⟨same, empty⟩
    exact ⟨same, fun whole => empty (repeats whole)⟩

theorem fails_zero (expression : Expression) :
    Fails (expression.emit 0) .nestedTooDeeply ∧ Faulty 0 expression .nestedTooDeeply := by
  refine ⟨?_, .inl ⟨rfl, height_pos expression⟩⟩
  cases expression <;> exact fails_throw _

theorem fails_times {count : Nat} (empty : count = 0) (node : Nat) :
    Fails (Draft.times node count) .emptyRepeat := by
  rw [Draft.times, if_pos empty]
  exact fails_throw _

theorem emit_cases (expression : Expression) (room : Nat) : (expression.height ≤ room ∧ expression.Repeats) ∨
    ∃ error, Fails (expression.emit room) error ∧ Faulty room expression error := by
  induction expression generalizing room with
  | literal text =>
    cases room with
    | zero => exact .inr ⟨_, fails_zero _⟩
    | succ room => exact .inl ⟨Nat.le_add_left _ _, trivial⟩
  | modified inner modifier ih =>
    cases room with
    | zero => exact .inr ⟨_, fails_zero _⟩
    | succ room =>
      rcases ih room with ⟨low, repeats⟩ | ⟨error, fails, faulty⟩
      · exact .inl ⟨Nat.succ_le_succ low, repeats⟩
      · exact .inr ⟨error, fails.andThen, faulty.whole (Nat.le_refl _) id⟩
  | times inner count ih =>
    cases room with
    | zero => exact .inr ⟨_, fails_zero _⟩
    | succ room =>
      rcases ih room with ⟨low, repeats⟩ | ⟨error, fails, faulty⟩
      · by_cases empty : count = 0
        · exact .inr ⟨_, .behind low repeats (fails_times empty), .inr ⟨rfl, fun repeats => repeats.2 empty⟩⟩
        · exact .inl ⟨Nat.succ_le_succ low, repeats, empty⟩
      · exact .inr ⟨error, fails.andThen, faulty.whole (Nat.le_refl _) And.left⟩
  | sequence left right ih ih' | choice left right ih ih' =>
    cases room with
    | zero => exact .inr ⟨_, fails_zero _⟩
    | succ room =>
      rcases ih room with ⟨low, repeats⟩ | ⟨error, fails, faulty⟩
      · rcases ih' room with ⟨low', repeats'⟩ | ⟨error, fails, faulty⟩
        · exact .inl ⟨Nat.succ_le_succ (Nat.max_le.mpr ⟨low, low'⟩), repeats, repeats'⟩
        · -- All the nodes of the left part are there already when the right part fails.
          have higher := Nat.succ_le_succ (Nat.le_max_right left.height right.height)
          exact .inr ⟨error, .behind low repeats fun _ => fails.andThen, faulty.whole higher And.right⟩
      · have higher := Nat.succ_le_succ (Nat.le_max_left left.height right.height)
        exact .inr ⟨error, fails.andThen, faulty.whole higher And.left⟩

theorem compile_of_fails {expression : Expression} {error : BuildError} (fails : Fails expression.draft error) :
    expression.compile = .error error := by
  obtain ⟨nodes, ran, _⟩ := fails {}
  rw [Expression.compile, ran]

theorem compile_cases (expression : Expression) :
    (expression.height ≤ Expression.maxHeight ∧ expression.Repeats ∧ ∃ grammar, expression.compile = .ok grammar) ∨
    ∃ error, expression.compile = .error error ∧ Fails expression.draft error ∧
      Faulty Expression.maxHeight expression error := by
  rcases emit_cases expression Expression.maxHeight with ⟨low, repeats⟩ | ⟨error, fails, faulty⟩
  · obtain ⟨grammar, compiled, _⟩ := compile_eq low repeats
    exact .inl ⟨low, repeats, grammar, compiled⟩
  · exact .inr ⟨error, compile_of_fails fails, fails, faulty⟩

theorem seal_of_emitted {expression : Expression} {root : Nat} {draft : Draft}
    (emitted : expression.draft.run {} = (.ok root, draft)) : ∃ grammar, draft.seal root = .ok grammar := by
  obtain ⟨low, repeats⟩ := valid_of_emit emitted
  obtain ⟨grammar, compiled, _⟩ := compile_eq low repeats
  rw [Expression.compile, emitted] at compiled
  exact ⟨grammar, compiled⟩

theorem ofText_of_parse {text : String} {expression : Expression} (parsed : Expression.parse text = .ok expression) :
    (expression.Repeats → ∃ grammar, Grammar.ofText text = .ok grammar) ∧
    (¬ expression.Repeats → Grammar.ofText text = .error (.graph .emptyRepeat)) := by
  have whole : Grammar.ofText text = expression.compile.mapError .graph := by
    rw [Grammar.ofText, parsed]
    rfl
  obtain ⟨low, _⟩ := parsed_valid parsed
  rcases compile_cases expression with ⟨_, repeats, grammar, compiled⟩ | ⟨error, failed, _, faulty⟩
  · rw [whole, compiled]
    exact ⟨fun _ => ⟨grammar, rfl⟩, fun empty => absurd repeats empty⟩
  · rcases faulty with ⟨_, high⟩ | ⟨rfl, empty⟩
    · exact absurd low (Nat.not_le_of_lt high)
    · rw [whole, failed]
      exact ⟨fun repeats => absurd repeats empty, fun _ => rfl⟩

/-- An expression has a grammar exactly if it is no higher than the bound and repeats nothing zero times. The
reader of texts has the same bound on the height, so the one thing that is left for the compiler to refuse in
what was read is an empty repetition. -/
theorem compiles_iff_low_and_repeats :
    (∀ expression : Expression,
      ((∃ grammar, expression.compile = .ok grammar) ↔ expression.height ≤ 256 ∧ expression.Repeats) ∧
      (¬ (expression.height ≤ 256 ∧ expression.Repeats) → ∃ error, expression.compile = .error error ∧
        ((error = .nestedTooDeeply ∧ 256 < expression.height) ∨ (error = .emptyRepeat ∧ ¬ expression.Repeats))) ∧
      ∀ root draft, expression.draft.run {} = (.ok root, draft) → ∃ grammar, draft.seal root = .ok grammar) ∧
    BuildError.emptyRepeat.message = "The repeat count must be greater than 0." ∧
    ∀ text,
      (∀ expression, Expression.parse text = .ok expression → expression.height ≤ 256 ∧
        (expression.Repeats → ∃ grammar, Grammar.ofText text = .ok grammar) ∧
        (¬ expression.Repeats → Grammar.ofText text = .error (.graph .emptyRepeat))) ∧
      ∀ error, Expression.parse text = .error error → Grammar.ofText text = .error (.text error) := by
  refine ⟨?_, rfl, ?_⟩
  · intro expression
    rcases compile_cases expression with ⟨low, repeats, compiled⟩ | ⟨error, failed, _, faulty⟩
    · refine ⟨⟨fun _ => ⟨low, repeats⟩, fun _ => compiled⟩, ?_, fun _ _ => seal_of_emitted⟩
      intro invalid
      exact absurd ⟨low, repeats⟩ invalid
    · refine ⟨⟨?_, ?_⟩, fun _ => ⟨error, failed, faulty⟩, fun _ _ => seal_of_emitted⟩
      · rintro ⟨grammar, compiled⟩
        cases failed.symm.trans compiled
      · rintro ⟨low, repeats⟩
        rcases faulty with ⟨_, high⟩ | ⟨_, empty⟩
        · exact absurd low (Nat.not_le_of_lt high)
        · exact absurd repeats empty
  · intro text
    refine ⟨fun expression parsed => ⟨(parsed_valid parsed).1, ofText_of_parse parsed⟩, ?_⟩
    intro error failed
    rw [Grammar.ofText, failed]
    rfl

/-- Two times is compiled, zero times is read and not compiled, and one `?` too many is not even read. -/
theorem zero_times_is_read_but_not_compiled :
    let twice : Expression := .times (.literal "a") 2
    let never : Expression := .times (.literal "a") 0
    let high : Expression := Nat.repeat (Expression.modified · .optional) 256 (.literal "a")
    Expression.parse "\"a\" x2" = .ok twice ∧ (∃ grammar, Grammar.ofText "\"a\" x2" = .ok grammar) ∧
      Expression.parse "\"a\" x0" = .ok never ∧ Grammar.ofText "\"a\" x0" = .error (.graph .emptyRepeat) ∧
      never.compile = .error .emptyRepeat ∧ high.compile = .error .nestedTooDeeply ∧
      ∃ location, Grammar.ofText high.render = .error (.text (.located .nestedTooDeeply location)) := by
  intro twice never high
  obtain ⟨builds, _, texts⟩ := compiles_iff_low_and_repeats
  have counted : twice.Counted := ⟨trivial, by decide⟩
  have counted' : never.Counted := ⟨trivial, by decide⟩
  have counted'' : high.Counted := trivial
  have written : twice.render = "\"a\" x2" := by decide +kernel
  have written' : never.render = "\"a\" x0" := by decide +kernel
  have parsed := written ▸ (parse_render counted).1 (by decide)
  have parsed' := written' ▸ (parse_render counted').1 (by decide)
  have above : ¬ high.height ≤ 256 := by decide +kernel
  obtain ⟨location, unread⟩ := (parse_render counted'').2 above
  have repeats : twice.Repeats := ⟨trivial, by decide⟩
  have empty : ¬ never.Repeats := fun repeats => repeats.2 rfl
  have compiled := ((texts _).1 twice parsed).2.1 repeats
  have refused := ((texts _).1 never parsed').2.2 empty
  have tooHigh : high.compile = .error .nestedTooDeeply := by
    obtain ⟨error, failed, ⟨rfl, _⟩ | ⟨_, empty⟩⟩ := (builds high).2.1 fun valid => above valid.1
    · exact failed
    · exact absurd trivial empty
  have zero : never.compile = .error .emptyRepeat := by
    obtain ⟨error, failed, ⟨_, high⟩ | ⟨rfl, _⟩⟩ := (builds never).2.1 fun valid => empty valid.2
    · exact absurd high (by decide)
    · exact failed
  exact ⟨parsed, compiled, parsed', refused, zero, tooHigh, location, (texts _).2 _ unread⟩

end Peg.Proofs
