import Peg.Expression.Lexer
import Peg.Proofs.DerivationRun
import Peg.Proofs.Slice
import Peg.Proofs.TokenDerivation

/-! Runs of the token graph. The lexer tells tokens apart by their capture slots, so evaluations
are followed here together with the slots that they fill. -/

namespace Peg

namespace Proofs

abbrev Slots := Array (Option Span)

/-- From the position the node has this result and changes the slots in this way. -/
def Marks (setting : Setting) (height id position : Nat) (slots : Slots) (result : Option Span)
    (filled : Slots) : Prop :=
  ∀ state, Ready setting height position state → state.captures = slots →
    ∃ after, Evaluates setting height (.visit id) state result after ∧ after.aborted = false ∧
      after.captures = filled

section Marking
variable {setting : Setting} {height id inner left right position slot : Nat} {node : Node}
  {slots between filled : Slots} {result : Option Span} {span : Span}

theorem Marks.entered (found : setting.grammar.node? id = some node)
    (parts : ∀ entry, Ready setting height position entry → entry.captures = slots →
      ∃ after, Evaluates setting height (.parts id node) entry result after ∧ after.aborted = false ∧
        after.captures = filled) : Marks setting (height + 1) id position slots result filled := by
  intro state ready same
  obtain ⟨after, evaluation, running, captured⟩ := parts _ ready.entered same
  exact ⟨_, .entered ready.running ready.room.within found evaluation, running, captured⟩

theorem Marks.choice_left (found : setting.grammar.node? id = some (.choice left right))
    (first : Marks setting height left position slots (some span) filled) :
    Marks setting (height + 1) id position slots (some span) filled := by
  apply Marks.entered found
  intro entry ready same
  obtain ⟨after, evaluation, rest⟩ := first entry ready same
  exact ⟨after, .choice_left evaluation, rest⟩

theorem Marks.choice_right (found : setting.grammar.node? id = some (.choice left right))
    (first : Marks setting height left position slots none between)
    (second : Marks setting height right position between result filled) :
    Marks setting (height + 1) id position slots result filled := by
  apply Marks.entered found
  intro entry ready same
  obtain ⟨middle, failed, running, captured⟩ := first entry ready same
  obtain ⟨after, evaluation, rest⟩ := second _ (ready.failed failed running) captured
  exact ⟨after, .choice_right failed (ready.here ▸ evaluation), rest⟩

theorem Marks.capture (found : setting.grammar.node? id = some (.capture inner slot))
    (matched : Marks setting height inner position slots (some span) filled) :
    Marks setting (height + 1) id position slots (some span) (filled.setIfInBounds slot (some span)) := by
  apply Marks.entered found
  intro entry ready same
  obtain ⟨after, evaluation, running, rfl⟩ := matched entry ready same
  exact ⟨_, .capture evaluation, running, rfl⟩

theorem Marks.capture_fail (found : setting.grammar.node? id = some (.capture inner slot))
    (failed : Marks setting height inner position slots none filled) :
    Marks setting (height + 1) id position slots none filled := by
  apply Marks.entered found
  intro entry ready same
  obtain ⟨after, evaluation, rest⟩ := failed entry ready same
  exact ⟨after, .capture_fail evaluation, rest⟩

end Marking

/-- Nodes that are made of each other alone, none of which fills a slot. -/
structure Plain (grammar : Grammar) (nodes : Nat → Prop) : Prop where
  bare : ∀ {id node}, nodes id → grammar.node? id = some node → node.slot? = none
  closed : ∀ {id node}, nodes id → grammar.node? id = some node → ∀ child ∈ node.children, nodes child

def Task.Over (nodes : Nat → Prop) : Task → Prop
  | .visit id => nodes id
  | .parts _ node => node.slot? = none ∧ ∀ child ∈ node.children, nodes child
  | .times inner _ _ | .span inner _ => nodes inner

theorem Evaluates.keeps_captures {setting : Setting} {nodes : Nat → Prop} (plain : Plain setting.grammar nodes)
    {height task state result after} (evaluation : Evaluates setting height task state result after)
    (about : task.Over nodes) : after.captures = state.captures := by
  induction evaluation with
  | halted | exceeded | literal_fail | literal | checker_end | checker_fail | checker | times_done => rfl
  | entered _ _ found _ ih => exact ih ⟨plain.bare about found, plain.closed about found⟩
  | sequence_left _ ih => exact ih (about.2 _ List.mem_cons_self)
  | sequence_right _ _ first second | sequence _ _ first second | choice_right _ _ first second =>
    have right := about.2 _ (List.mem_cons_of_mem _ List.mem_cons_self)
    exact (second right).trans (first (about.2 _ List.mem_cons_self))
  | choice_left _ ih | negate_found _ ih | negate_aborted _ _ ih | negate _ _ ih | optional _ ih
  | optional_aborted _ _ ih | optional_empty _ _ ih | times _ ih | span _ ih | rule _ ih =>
    exact ih (about.2 _ List.mem_cons_self)
  | times_fail _ ih | span_still _ _ ih | span_aborted _ _ ih | span_end _ _ ih => exact ih about
  | times_next _ _ first rest | span_next _ _ _ first rest => exact (rest about).trans (first about)
  | capture_fail | capture => cases about.1

theorem Derives.marks {setting : Setting} {nodes : Nat → Prop} (plain : Plain setting.grammar nodes)
    {height id position : Nat} {stop : Option Nat} (about : nodes id)
    (derived : Derives .progress setting.grammar setting.scalars height (.node id) position stop)
    (slots : Slots) : Marks setting height id position slots (stop.map (Span.mk position)) slots := by
  intro state ready same
  obtain ⟨after, evaluation, running⟩ := derived.reaches 0 ready
  exact ⟨after, evaluation, running, (evaluation.keeps_captures plain about).trans same⟩

/-- The nodes of the token graph below its captures. -/
theorem plain_token : Plain TokenGrammar.grammar fun id => id ∉ [11, 15, 17, 18, 19] := by
  -- 11, 15 and 17 are the captures, 18 and 19 the choices between them.
  have checked : ∀ id : Fin 20, id.val ∉ [11, 15, 17, 18, 19] → tokenNodes[id].slot? = none ∧
      ∀ child ∈ tokenNodes[id].children, child ∉ [11, 15, 17, 18, 19] := by
    decide
  constructor
  all_goals
    intro id node about found
    rw [node?_token] at found
    obtain ⟨inside, rfl⟩ := List.getElem?_eq_some_iff.mp found
  · exact (checked ⟨id, inside⟩ about).1
  · exact (checked ⟨id, inside⟩ about).2

theorem parts_token : TokenGrammar.parts = ⟨1, 19, 0, 1, 2⟩ := by decide +kernel

theorem limits_token : TokenGrammar.grammar.limits = {} := by with_unfolding_all rfl

theorem captureNames_token : TokenGrammar.grammar.captureNames = #["literal", "word", "symbol"] := by
  with_unfolding_all rfl

section Lexing
variable {source : Source} {position : Nat} {chars : List Char}

theorem Marks.run {height id : Nat} {result : Option Span} {filled : Slots}
    (marks : Marks ⟨TokenGrammar.grammar, source.scalars, {}⟩ height id position #[none, none, none] result filled)
    (inside : position ≤ source.size) (low : height ≤ 1000) : ∃ run,
      TokenGrammar.grammar.consumeNode id (source.seek position) none = .ok run ∧
      run.grammar = TokenGrammar.grammar ∧ run.start = source.seek position ∧ run.result = result ∧
      run.final.captures = filled ∧
      ∀ span, result = some span → span.stop ≤ source.size ∧ run.source.position = span.stop := by
  have here : (source.seek position).position = position := Nat.min_eq_left inside
  have ready : Ready ⟨TokenGrammar.grammar, (source.seek position).scalars, {}⟩ height _ _ :=
    ready_default low none
  have blank : (State.initial TokenGrammar.grammar (source.seek position).position none).captures =
      #[none, none, none] := by
    rw [State.initial, captureNames_token]
    rfl
  rw [← here] at marks
  obtain ⟨after, evaluation, _, captured⟩ := marks _ ready blank
  refine ⟨_, evaluation.run_default limits_token low, rfl, rfl, rfl, captured, ?_⟩
  intro span same
  obtain ⟨_, _, within, moved⟩ := (evaluation.rollback ready.sound).matched span same
  refine ⟨within, ?_⟩
  rw [Run.source, Source.position_seek, moved]
  exact Nat.min_eq_left within

theorem skipSpace_eq (inside : position ≤ source.size) (remains : Remains source.scalars position chars) :
    Lexer.skipSpace source position = .ok (position + (chars.takeWhile Unicode.isWhiteSpace).length) := by
  have marks : Marks ⟨TokenGrammar.grammar, source.scalars, {}⟩ 2 1 position #[none, none, none] _ _ :=
    (derives_space remains).marks plain_token (by decide) _
  obtain ⟨run, ran, _, _, _, _, moved⟩ := marks.run inside (by decide)
  rw [Lexer.skipSpace, parts_token, ran]
  exact congrArg Except.ok (moved _ rfl).2

def TokenKind.slot : TokenKind → Nat
  | .literal => 0
  | .word => 1
  | .symbol => 2

def TokenKind.name : TokenKind → String
  | .literal => "literal"
  | .word => "word"
  | .symbol => "symbol"

def tokenSlots (position : Nat) (token : Option (TokenKind × Nat)) : Slots :=
  token.elim #[none, none, none] fun (kind, size) =>
    #[none, none, none].setIfInBounds kind.slot (some ⟨position, position + size⟩)

theorem marks_token (remains : Remains source.scalars position chars) :
    Marks ⟨TokenGrammar.grammar, source.scalars, {}⟩ 8 19 position #[none, none, none]
      ((startingToken chars).map fun token => ⟨position, position + token.2⟩)
      (tokenSlots position (startingToken chars)) := by
  let setting : Setting := ⟨TokenGrammar.grammar, source.scalars, {}⟩
  have quoted : Marks setting 6 10 position _ _ _ :=
    (derives_quoted remains).marks plain_token (by decide) #[none, none, none]
  have word : Marks setting 5 14 position _ _ _ :=
    ((derives_word remains).mono (Nat.le_add_left 3 2)).marks plain_token (by decide) #[none, none, none]
  have symbol : Marks setting 5 16 position _ _ _ :=
    ((derives_symbol remains).mono (Nat.le_add_left 1 4)).marks plain_token (by decide) #[none, none, none]
  unfold startingToken
  cases isQuoted : quotedSize chars with
  | some size =>
    rw [isQuoted] at quoted
    exact .choice_left (node?_token 19) (.capture (node?_token 11) quoted)
  | none =>
    rw [isQuoted] at quoted
    apply Marks.choice_right (node?_token 19) (.capture_fail (node?_token 11) quoted)
    cases isWord : wordSize chars with
    | some size =>
      rw [isWord] at word
      exact .choice_left (node?_token 18) (.capture (node?_token 15) word)
    | none =>
      rw [isWord] at word
      apply Marks.choice_right (node?_token 18) (.capture_fail (node?_token 15) word)
      cases isSymbol : symbolSize chars with
      | some size =>
        rw [isSymbol] at symbol
        exact .capture (node?_token 17) symbol
      | none =>
        rw [isSymbol] at symbol
        exact .capture_fail (node?_token 17) symbol

theorem ofSpan_eq (name : String) {size : Nat} (remains : Remains source.scalars position chars)
    (within : position + size ≤ source.size) :
    Match.ofSpan (source.seek position) (some name) ⟨position, position + size⟩ =
      ⟨⟨position, position + size⟩, some name, String.ofList (chars.take size)⟩ := by
  have cut : ((source.seek position).slice ⟨position, position + size⟩).toList =
      (source.scalars.extract position (position + size)).toList :=
    toList_slice_inside (Nat.le_add_right _ _) within
  rw [Array.toList_extract, List.extract_eq_take_drop, Nat.add_sub_cancel_left, remains] at cut
  rw [Match.ofSpan, ← cut, String.ofList_toList]

def TokenKind.read (source : Source) (found : Match) : TokenKind → Except SyntaxError Token
  | .literal => Lexer.literal source found
  | .word => Lexer.word source found
  | .symbol => .ok (Lexer.symbol found)

theorem token_eq (inside : position ≤ source.size) (remains : Remains source.scalars position chars) :
    Lexer.token source position = (startingToken chars).elim (.error (Lexer.unexpected source position))
      fun (kind, size) =>
        (kind.read source ⟨⟨position, position + size⟩, some kind.name, String.ofList (chars.take size)⟩).map
          (·, ⟨position, position + size⟩, position + size) := by
  obtain ⟨run, ran, grammar, start, result, captured, within⟩ := (marks_token remains).run inside (by decide)
  rw [Lexer.token, parts_token, ran]
  cases starting : startingToken chars with
  | none =>
    rw [starting] at result
    exact if_neg (by simp [Outcome.isSuccess, Run.outcome, result])
  | some token =>
    obtain ⟨kind, size⟩ := token
    rw [starting] at result captured within
    have filled : ∀ slot, run.outcome.capture? slot =
        ((tokenSlots position (some (kind, size)))[slot]?.join).map
          (Match.ofSpan (source.seek position) (TokenGrammar.grammar.captureName? slot)) := by
      intro slot
      rw [capture?_outcome, captured, grammar, start]
    have name : TokenGrammar.grammar.captureName? kind.slot = some kind.name := by
      rw [Grammar.captureName?, captureNames_token]
      cases kind <;> rfl
    have cut := ofSpan_eq kind.name remains (within _ rfl).1
    have cut := (congrArg (Match.ofSpan (source.seek position) · _) name).trans cut
    have moved : run.outcome.position = position + size := (within _ rfl).2
    have success : run.outcome.isSuccess = true := by simp [Outcome.isSuccess, Run.outcome, result]
    apply (if_pos success).trans
    dsimp only
    rw [filled 0, filled 1, filled 2, moved]
    cases kind with
    | literal => exact congrArg (fun found => (Lexer.literal source found).map (·, found.span, position + size)) cut
    | word => exact congrArg (fun found => (Lexer.word source found).map (·, found.span, position + size)) cut
    | symbol => exact congrArg (fun found => Except.ok (Lexer.symbol found, found.span, position + size)) cut

end Lexing

end Proofs
end Peg
