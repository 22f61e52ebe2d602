import Peg.Expression.Printer
import Peg.Expression.Token

/-! The grammar of expressions as a relation between tokens and trees, the nesting of groups in a
list of tokens, and the tokens in which an expression is written. None of them knows of a parser. -/

namespace Peg

def Modifier.token : Modifier → Token
  | .oneOrMore => .plus
  | .optional => .question
  | .negate => .minus

namespace Expression

def enclose (wrapped : Bool) (tokens : List Token) : List Token :=
  if wrapped then .leftParen :: (tokens ++ [.rightParen]) else tokens

def tokens : Expression → List Token
  | .literal text => [.literal text]
  | .modified inner modifier => enclose (!inner.isTerm) inner.tokens ++ [modifier.token]
  | .times inner count => enclose (!inner.isLiteral) inner.tokens ++ [.times count]
  | .sequence left right =>
    enclose left.isChoice left.tokens ++ .then_ :: enclose (right.isChoice || right.isSequence) right.tokens
  | .choice left right => enclose left.isChoice left.tokens ++ .or_ :: right.tokens

/-- The greatest number of groups that are open at once where an expression is written. -/
def groups : Expression → Nat
  | .literal _ => 0
  | .modified inner _ => inner.groups + (!inner.isTerm).toNat
  | .times inner _ => inner.groups + (!inner.isLiteral).toNat
  | .sequence left right =>
    max (left.groups + left.isChoice.toNat) (right.groups + (right.isChoice || right.isSequence).toNat)
  | .choice left right => max (left.groups + left.isChoice.toNat) right.groups

end Expression

namespace Proofs

/-- What tokens may stand for, from the loosest to the tightest. -/
inductive Category where
  | choice
  | sequence
  | term
  | modified
  | primary

/-- The tokens are a phrase of the category, with this tree. Choices group to the right, sequences
to the left, and modifiers apply in the order in which they are written. A repeat count stands
behind a primary, and nothing else does then. -/
inductive Phrase : Category → List Token → Expression → Prop where
  | literal (text : String) : Phrase .primary [.literal text] (.literal text)
  | group {tokens expression} (inner : Phrase .choice tokens expression) :
      Phrase .primary (.leftParen :: (tokens ++ [.rightParen])) expression
  | plain {tokens expression} (primary : Phrase .primary tokens expression) :
      Phrase .modified tokens expression
  | modified {tokens expression} (inner : Phrase .modified tokens expression) (modifier : Modifier) :
      Phrase .modified (tokens ++ [modifier.token]) (.modified expression modifier)
  | uncounted {tokens expression} (modified : Phrase .modified tokens expression) :
      Phrase .term tokens expression
  | times {tokens expression} (inner : Phrase .primary tokens expression) (count : Nat) :
      Phrase .term (tokens ++ [.times count]) (.times expression count)
  | single {tokens expression} (term : Phrase .term tokens expression) :
      Phrase .sequence tokens expression
  | sequence {tokens tokens' left right} (first : Phrase .sequence tokens left)
      (last : Phrase .term tokens' right) :
      Phrase .sequence (tokens ++ .then_ :: tokens') (.sequence left right)
  | only {tokens expression} (sequence : Phrase .sequence tokens expression) :
      Phrase .choice tokens expression
  | choice {tokens tokens' left right} (first : Phrase .sequence tokens left)
      (others : Phrase .choice tokens' right) :
      Phrase .choice (tokens ++ .or_ :: tokens') (.choice left right)

/-- As many groups are closed as are opened. -/
def Balanced (tokens : List Token) : Prop := tokens.count .leftParen = tokens.count .rightParen

/-- At no place among the tokens are more than `room` groups open. -/
def Nests (room : Nat) (tokens : List Token) : Prop :=
  ∀ before, before <+: tokens → before.count .leftParen ≤ before.count .rightParen + room

section Nesting
variable {room : Nat} {tokens first rest : List Token} {token : Token}

theorem Balanced.append (balanced : Balanced first) (balanced' : Balanced rest) : Balanced (first ++ rest) := by
  unfold Balanced at *
  rw [List.count_append, List.count_append, balanced, balanced']

theorem Balanced.cons (balanced : Balanced rest) (single : Balanced [token]) : Balanced (token :: rest) :=
  single.append balanced

theorem Balanced.enclosed (balanced : Balanced tokens) : Balanced (.leftParen :: (tokens ++ [.rightParen])) := by
  unfold Balanced at *
  simp [List.count_append, balanced]

theorem Phrase.balanced {category : Category} {expression : Expression}
    (phrase : Phrase category tokens expression) : Balanced tokens := by
  induction phrase with
  | literal => rfl
  | group _ ih => exact ih.enclosed
  | modified _ modifier ih => exact ih.append (by cases modifier <;> rfl)
  | times _ _ ih => exact ih.append rfl
  | sequence _ _ first last => exact first.append (last.cons rfl)
  | choice _ _ first others => exact first.append (others.cons rfl)
  | plain _ ih | uncounted _ ih | single _ ih | only _ ih => exact ih

theorem nests_append (balanced : Balanced first) : Nests room (first ++ rest) ↔ Nests room first ∧ Nests room rest := by
  constructor
  · intro nests
    refine ⟨fun before among => nests before (among.trans (List.prefix_append first rest)), ?_⟩
    intro before among
    have counted := nests (first ++ before) ((List.prefix_append_right_inj first).mpr among)
    rw [List.count_append, List.count_append, balanced] at counted
    omega
  · rintro ⟨nests, nests'⟩ before ⟨behind, same⟩
    rcases List.append_eq_append_iff.mp same with ⟨more, rfl, _⟩ | ⟨more, rfl, rest⟩
    · exact nests before (List.prefix_append before more)
    · have counted := nests' more ⟨behind, rest.symm⟩
      rw [List.count_append, List.count_append, balanced]
      omega

theorem nests_single (other : token ≠ .leftParen) : Nests room [token] := by
  intro before among
  have none : before.count .leftParen = 0 := by
    apply Nat.eq_zero_of_le_zero
    exact Nat.le_trans (among.sublist.count_le _) (by simp [other])
  omega

theorem nests_cons (other : token ≠ .leftParen) (balanced : Balanced [token]) :
    Nests room (token :: rest) ↔ Nests room rest := by
  rw [← List.singleton_append, nests_append balanced]
  exact and_iff_right (nests_single other)

theorem nests_joined (token : Token) (other : token ≠ .leftParen) (joins : Balanced [token])
    (balanced : Balanced first) :
    Nests room (first ++ token :: rest) ↔ Nests room first ∧ Nests room rest := by
  rw [nests_append balanced, nests_cons other joins]

theorem nests_enclosed (balanced : Balanced tokens) :
    Nests room (.leftParen :: (tokens ++ [.rightParen])) ↔ ∃ inner, room = inner + 1 ∧ Nests inner tokens := by
  constructor
  · intro nests
    obtain ⟨inner, rfl⟩ : ∃ inner, room = inner + 1 := by
      have counted := nests [.leftParen] ⟨tokens ++ [.rightParen], rfl⟩
      exact Nat.exists_eq_add_of_le' (by simpa using counted)
    refine ⟨inner, rfl, ?_⟩
    intro before among
    have counted := nests (.leftParen :: before)
      (List.cons_prefix_cons.mpr ⟨rfl, among.trans (List.prefix_append tokens _)⟩)
    simpa [← Nat.add_assoc] using counted
  · rintro ⟨inner, rfl, nests⟩ before among
    rcases List.prefix_cons_iff.mp among with rfl | ⟨before, rfl, within⟩
    · exact Nat.zero_le _
    rcases List.prefix_concat_iff.mp within with rfl | within
    · have counted : tokens.count .leftParen = tokens.count .rightParen := balanced
      simp [List.count_append, counted]
    · have counted := nests before within
      simpa [← Nat.add_assoc] using counted

end Nesting

/-- The tightest category of which an expression is a phrase without parentheses around it. -/
def category : Expression → Category
  | .literal _ => .primary
  | .modified _ _ => .modified
  | .times _ _ => .term
  | .sequence _ _ => .sequence
  | .choice _ _ => .choice

section Writing
variable {room : Nat} {tokens : List Token} {expression : Expression}

theorem Phrase.modified_of (phrase : Phrase (category expression) tokens expression)
    (bare : expression.isTerm = true) : Phrase .modified tokens expression := by
  cases expression with
  | literal => exact .plain phrase
  | modified => exact phrase
  | times | sequence | choice => cases bare

theorem Phrase.term_of (phrase : Phrase (category expression) tokens expression)
    (bare : (expression.isChoice || expression.isSequence) = false) : Phrase .term tokens expression := by
  cases expression with
  | literal | modified => exact .uncounted (phrase.modified_of rfl)
  | times => exact phrase
  | sequence | choice => cases bare

theorem Phrase.sequence_of (phrase : Phrase (category expression) tokens expression)
    (bare : expression.isChoice = false) : Phrase .sequence tokens expression := by
  cases expression with
  | literal | modified | times => exact .single (phrase.term_of rfl)
  | sequence => exact phrase
  | choice => cases bare

theorem Phrase.choice_of (phrase : Phrase (category expression) tokens expression) :
    Phrase .choice tokens expression := by
  cases expression with
  | literal | modified | times | sequence => exact .only (phrase.sequence_of rfl)
  | choice => exact phrase

theorem Phrase.operand {around : Category} {wrapped : Bool}
    (phrase : Phrase (category expression) tokens expression)
    (bare : wrapped = false → Phrase around tokens expression)
    (looser : ∀ {tokens}, Phrase .primary tokens expression → Phrase around tokens expression) :
    Phrase around (Expression.enclose wrapped tokens) expression := by
  cases wrapped with
  | false => exact bare rfl
  | true => exact looser (.group phrase.choice_of)

theorem phrase_tokens (expression : Expression) : Phrase (category expression) expression.tokens expression := by
  induction expression with
  | literal text => exact .literal text
  | modified inner modifier ih =>
    exact .modified (ih.operand (fun bare => ih.modified_of (by simpa using bare)) .plain) modifier
  | times inner count ih =>
    refine .times (ih.operand (fun bare => ?_) id) count
    cases inner with
    | literal => exact ih
    | modified | times | sequence | choice => cases bare
  | sequence left right ih ih' =>
    exact .sequence (ih.operand ih.sequence_of (.single <| .uncounted <| .plain ·))
      (ih'.operand ih'.term_of (.uncounted <| .plain ·))
  | choice left right ih ih' =>
    exact .choice (ih.operand ih.sequence_of (.single <| .uncounted <| .plain ·)) ih'.choice_of

theorem Nests.mono {more : Nat} (nests : Nests room tokens) (most : room ≤ more) : Nests more tokens :=
  fun before among => Nat.le_trans (nests before among) (Nat.add_le_add_left most _)

theorem Nests.enclose (nests : Nests room tokens) (balanced : Balanced tokens) (wrapped : Bool) :
    Nests (room + wrapped.toNat) (Expression.enclose wrapped tokens) := by
  cases wrapped with
  | false => exact nests
  | true => exact (nests_enclosed balanced).mpr ⟨room, rfl, nests⟩

theorem balanced_operand (wrapped : Bool) (expression : Expression) :
    Balanced (Expression.enclose wrapped expression.tokens) := by
  have phrase := phrase_tokens expression
  cases wrapped with
  | false => exact phrase.balanced
  | true => exact phrase.balanced.enclosed

theorem nests_tokens (expression : Expression) : Nests expression.groups expression.tokens := by
  induction expression with
  | literal => exact nests_single nofun
  | modified inner modifier ih =>
    have operand := ih.enclose (phrase_tokens inner).balanced (!inner.isTerm)
    exact (nests_append (balanced_operand _ _)).mpr ⟨operand, nests_single (by cases modifier <;> nofun)⟩
  | times inner count ih =>
    have operand := ih.enclose (phrase_tokens inner).balanced (!inner.isLiteral)
    exact (nests_append (balanced_operand _ _)).mpr ⟨operand, nests_single nofun⟩
  | sequence left right ih ih' =>
    have first := ih.enclose (phrase_tokens left).balanced left.isChoice
    have last := ih'.enclose (phrase_tokens right).balanced (right.isChoice || right.isSequence)
    apply (nests_joined .then_ nofun rfl (balanced_operand _ _)).mpr
    exact ⟨first.mono (Nat.le_max_left _ _), last.mono (Nat.le_max_right _ _)⟩
  | choice left right ih ih' =>
    have first := ih.enclose (phrase_tokens left).balanced left.isChoice
    apply (nests_joined .or_ nofun rfl (balanced_operand _ _)).mpr
    exact ⟨first.mono (Nat.le_max_left _ _), ih'.mono (Nat.le_max_right _ _)⟩

theorem groups_lt_height (expression : Expression) : expression.groups < expression.height := by
  induction expression with
  | literal => exact Nat.zero_lt_one
  | modified inner _ ih =>
    have opened := Bool.toNat_le (!inner.isTerm)
    simp only [Expression.groups, Expression.height]
    omega
  | times inner _ ih =>
    have opened := Bool.toNat_le (!inner.isLiteral)
    simp only [Expression.groups, Expression.height]
    omega
  | sequence left right ih ih' =>
    have opened := Bool.toNat_le left.isChoice
    have opened' := Bool.toNat_le (right.isChoice || right.isSequence)
    simp only [Expression.groups, Expression.height]
    omega
  | choice left right ih ih' =>
    have opened := Bool.toNat_le left.isChoice
    simp only [Expression.groups, Expression.height]
    omega

end Writing

end Proofs
end Peg
