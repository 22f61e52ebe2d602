import Peg.Proofs.Compilation
import Peg.Proofs.Meaning
import Peg.Proofs.Sealing
import Peg.Proofs.Spelling
import Peg.Proofs.Wording

/-! The description of a compiled expression tells which expression it was. A description is a row of signs. The
signs can be read off its characters from left to right: no sign begins with a digit, so a repeat count ends where
the digits do, and a quoted text ends at the first quote that is not escaped. The expression can be read off
the signs, because an operator stands behind its pattern and a pair of patterns in parentheses; a `+` is told from a
written-out sequence by the star, which no other pattern of an expression has. -/

namespace Peg

/-- What descriptions of expressions are put together from. -/
inductive Sign where
  | quoted (text : String)
  | opening
  | closing
  | andThen
  | orElse
  | optional
  | negate
  | star
  | times (count : Nat)

def Sign.chars : Sign → List Char
  | .quoted text => '"' :: (Text.Quoted.body text.toList ++ ['"'])
  | .opening => ['(']
  | .closing => [')']
  | .andThen => [' ', 't', 'h', 'e', 'n', ' ']
  | .orElse => [' ', 'o', 'r', ' ']
  | .optional => ['?']
  | .negate => ['-']
  | .star => ['*']
  | .times count => ' ' :: 'x' :: Nat.toDigits 10 count

/-- The signs of an expression. A `+` names its pattern twice, the second time under a star. -/
def Expression.signs : Expression → List Sign
  | .literal text => [.quoted text]
  | .modified inner .oneOrMore => [.opening] ++ inner.signs ++ [.andThen] ++ inner.signs ++ [.star, .closing]
  | .modified inner .optional => inner.signs ++ [.optional]
  | .modified inner .negate => inner.signs ++ [.negate]
  | .times inner count => inner.signs ++ [.times count]
  | .sequence left right => [.opening] ++ left.signs ++ [.andThen] ++ right.signs ++ [.closing]
  | .choice left right => [.opening] ++ left.signs ++ [.orElse] ++ right.signs ++ [.closing]

/-- What has been read and still waits for a sign behind it. -/
inductive Pending where
  | pattern (expression : Expression)
  | andThen
  | orElse
  | star

/-- Reads one more sign, the latest of what waits being the first. An opening parenthesis leaves nothing to wait for:
the sign that closes it finds the two patterns and what stands between them. -/
def Sign.read : List Pending → Sign → List Pending
  | waiting, .quoted text => .pattern (.literal text) :: waiting
  | waiting, .andThen => .andThen :: waiting
  | waiting, .orElse => .orElse :: waiting
  | waiting, .star => .star :: waiting
  | .pattern inner :: waiting, .optional => .pattern (.modified inner .optional) :: waiting
  | .pattern inner :: waiting, .negate => .pattern (.modified inner .negate) :: waiting
  | .pattern inner :: waiting, .times count => .pattern (.times inner count) :: waiting
  | .star :: .pattern inner :: .andThen :: .pattern _ :: waiting, .closing =>
    .pattern (.modified inner .oneOrMore) :: waiting
  | .pattern right :: .andThen :: .pattern left :: waiting, .closing => .pattern (.sequence left right) :: waiting
  | .pattern right :: .orElse :: .pattern left :: waiting, .closing => .pattern (.choice left right) :: waiting
  | waiting, _ => waiting

namespace Proofs

section Signs
variable {rest rest' : List Char}

theorem read_signs (expression : Expression) (waiting : List Pending) :
    expression.signs.foldl Sign.read waiting = .pattern expression :: waiting := by
  induction expression generalizing waiting with
  | literal text => rfl
  | modified inner modifier ih => cases modifier <;> simp [Expression.signs, ih, Sign.read]
  | times inner count ih => simp [Expression.signs, ih, Sign.read]
  | sequence left right ih ih' | choice left right ih ih' => simp [Expression.signs, ih, ih', Sign.read]

theorem signs_injective : Function.Injective Expression.signs := by
  intro first second same
  have read := congrArg (List.foldl Sign.read []) same
  rw [read_signs, read_signs] at read
  exact Pending.pattern.inj (List.cons.inj read).1

def Stops (rest : List Char) : Prop := rest.head?.any Char.isDigit = false

theorem quoted_unique {text text' : List Char}
    (same : Text.Quoted.body text ++ '"' :: rest = Text.Quoted.body text' ++ '"' :: rest') :
    text = text' ∧ rest = rest' := by
  have size := congrArg bodySize same
  rw [bodySize_body, bodySize_body] at size
  obtain ⟨_, behind⟩ := List.append_inj same size
  have read := congrArg (Text.Quoted.decodeFrom (0 + (Text.Quoted.body text).length) 0) same
  rw [Text.Quoted.decodeFrom_body, size, Text.Quoted.decodeFrom_body] at read
  exact ⟨Except.ok.inj read, (List.cons.inj behind).2⟩

theorem takeWhile_digits (count : Nat) (stops : Stops rest) :
    (Nat.toDigits 10 count ++ rest).takeWhile Char.isDigit = Nat.toDigits 10 count := by
  have digits : ∀ c ∈ Nat.toDigits 10 count, c.isDigit = true :=
    fun c => Nat.isDigit_of_mem_toDigits (by decide) (by decide)
  rw [List.takeWhile_append_of_pos digits]
  cases rest with
  | nil => simp
  | cons c rest => rw [List.takeWhile_cons_of_neg (by simpa [Stops] using stops), List.append_nil]

theorem count_unique {count count' : Nat} (stops : Stops rest) (stops' : Stops rest')
    (same : Nat.toDigits 10 count ++ rest = Nat.toDigits 10 count' ++ rest') : count = count' ∧ rest = rest' := by
  have digits := congrArg (List.takeWhile Char.isDigit) same
  rw [takeWhile_digits count stops, takeWhile_digits count' stops'] at digits
  refine ⟨?_, List.append_cancel_left (digits ▸ same)⟩
  rw [← Nat.ofDigitChars_ten_toDigits (n := count), digits, Nat.ofDigitChars_ten_toDigits]

/-- Signs of different kinds differ in one of their first two characters. -/
theorem sign_unique {sign sign' : Sign} (stops : Stops rest) (stops' : Stops rest')
    (same : sign.chars ++ rest = sign'.chars ++ rest') : sign = sign' ∧ rest = rest' := by
  cases sign with
  | quoted text =>
    cases sign' with
    | quoted text' =>
      simp only [Sign.chars, List.cons_append, List.append_assoc, List.nil_append, List.cons.injEq, true_and] at same
      obtain ⟨texts, behind⟩ := quoted_unique same
      exact ⟨congrArg Sign.quoted (String.toList_inj.mp texts), behind⟩
    | _ => simp [Sign.chars] at same
  | times count =>
    cases sign' with
    | times count' =>
      simp only [Sign.chars, List.cons_append, List.cons.injEq, true_and] at same
      obtain ⟨counts, behind⟩ := count_unique stops stops' same
      exact ⟨congrArg Sign.times counts, behind⟩
    | _ => simp [Sign.chars] at same
  | _ => cases sign' <;> simp_all [Sign.chars]

theorem stops_signs (signs : List Sign) : Stops (signs.flatMap Sign.chars) := by
  cases signs with
  | nil => rfl
  | cons sign signs => cases sign <;> rfl

theorem chars_injective : Function.Injective fun signs : List Sign => signs.flatMap Sign.chars := by
  intro first second same
  induction first generalizing second with
  | nil =>
    cases second with
    | nil => rfl
    | cons sign second => cases sign <;> cases same
  | cons sign first ih =>
    cases second with
    | nil => cases sign <;> cases same
    | cons sign' second =>
      obtain ⟨rfl, behind⟩ := sign_unique (stops_signs first) (stops_signs second) same
      exact congrArg _ (ih behind)

end Signs

section Descriptions
variable {grammar : Grammar} {expression : Expression}

/-- The two nodes of a `+` share the pattern, whose description therefore stands there twice. -/
theorem describe_nodes {base : Nat} (holds : Holds grammar base (expression.nodes base)) :
    (grammar.describe (base + expression.rootPlace)).toList = expression.signs.flatMap Sign.chars := by
  induction expression generalizing base with
  | literal text =>
    have found : grammar.node? base = some (.literal text .sensitive) := (along_cons.mp holds).1
    refine (congrArg String.toList (describe_eq_wording found)).trans ?_
    simp [Node.wording, Text.Quoted.encode, Expression.signs, Sign.chars]
  | modified inner modifier ih =>
    cases modifier with
    | oneOrMore =>
      obtain ⟨part, span, whole⟩ := holds.whole
      have sequence := (along_cons.mp whole).1
      have starred : grammar.describe (base + inner.rootPlace + 1) = _ := describe_eq_wording span
      refine (congrArg String.toList (describe_eq_wording sequence)).trans ?_
      simp [Node.wording, starred, ih part, Expression.signs, Sign.chars]
    | optional =>
      obtain ⟨part, optional, _⟩ := holds.whole
      refine (congrArg String.toList (describe_eq_wording optional)).trans ?_
      simp [Node.wording, ih part, Expression.signs, Sign.chars]
    | negate =>
      obtain ⟨part, negate, _⟩ := holds.whole
      refine (congrArg String.toList (describe_eq_wording negate)).trans ?_
      simp [Node.wording, ih part, Expression.signs, Sign.chars]
  | times inner count ih =>
    obtain ⟨part, times, _⟩ := holds.whole
    have mark : (toString " x").toList = [' ', 'x'] := rfl
    refine (congrArg String.toList (describe_eq_wording times)).trans ?_
    simp [Node.wording, mark, ih part, Expression.signs, Sign.chars]
  | sequence left right ih ih' =>
    obtain ⟨first, second, sequence⟩ := holds.pair
    refine (congrArg String.toList (describe_eq_wording sequence)).trans ?_
    simp [Node.wording, ih first, ih' second, Expression.signs, Sign.chars]
  | choice left right ih ih' =>
    obtain ⟨first, second, choice⟩ := holds.pair
    refine (congrArg String.toList (describe_eq_wording choice)).trans ?_
    simp [Node.wording, ih first, ih' second, Expression.signs, Sign.chars]

theorem describe_root (compiled : expression.compile = .ok grammar) :
    (grammar.describe grammar.root).toList = expression.signs.flatMap Sign.chars := by
  rcases compile_cases expression with ⟨low, repeats, _⟩ | ⟨error, failed, _⟩
  · obtain ⟨_, again, nodes, root, _⟩ := compile_eq low repeats
    cases compiled.symm.trans again
    have holds : Holds grammar 0 (expression.nodes 0) := by
      intro index node found
      rw [Nat.zero_add, Grammar.node?, nodes, List.getElem?_toArray]
      exact found
    rw [root, ← describe_nodes holds, Nat.zero_add]
  · cases compiled.symm.trans failed

end Descriptions

/-- Two expressions whose grammars are described in the same words are the same expression. -/
theorem description_tells_expression {first second : Expression} {grammar grammar' : Grammar}
    (compiled : first.compile = .ok grammar) (compiled' : second.compile = .ok grammar')
    (same : grammar.describe grammar.root = grammar'.describe grammar'.root) : first = second := by
  have chars := congrArg String.toList same
  rw [describe_root compiled, describe_root compiled'] at chars
  exact signs_injective (chars_injective chars)

/-- Blanks, parentheses and capitals make two spellings, but the graphs are described alike. -/
theorem spellings_of_one_expression :
    ∃ first second grammar grammar', Expression.parse "(\"a\" or \"b\")+" = .ok first ∧
      Expression.parse "((\"a\") OR \"b\") +" = .ok second ∧ first.compile = .ok grammar ∧
      second.compile = .ok grammar' ∧
      grammar.describe grammar.root = "((\"a\" or \"b\") then (\"a\" or \"b\")*)" ∧
      grammar.describe grammar.root = grammar'.describe grammar'.root ∧ first = second := by
  have answers : (Expression.parse "(\"a\" or \"b\")+").toOption.any (fun first =>
      (Expression.parse "((\"a\") OR \"b\") +").toOption.any fun second => first.compile.toOption.any fun grammar =>
        second.compile.toOption.any fun grammar' =>
          grammar.describe grammar.root == "((\"a\" or \"b\") then (\"a\" or \"b\")*)" &&
            grammar.describe grammar.root == grammar'.describe grammar'.root) = true := by decide +kernel
  obtain ⟨first, parsed, answers⟩ := ok_of_any answers
  obtain ⟨second, parsed', answers⟩ := ok_of_any answers
  obtain ⟨grammar, compiled, answers⟩ := ok_of_any answers
  obtain ⟨grammar', compiled', answers⟩ := ok_of_any answers
  obtain ⟨words, same⟩ := Bool.and_eq_true_iff.mp answers
  have same := eq_of_beq same
  exact ⟨first, second, grammar, grammar', parsed, parsed', compiled, compiled', eq_of_beq words, same,
    description_tells_expression compiled compiled' same⟩

end Proofs
end Peg
