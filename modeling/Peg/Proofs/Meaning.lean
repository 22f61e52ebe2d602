import Peg.Proofs.DerivationRun
import Peg.Proofs.Emission

/-! The meaning of an expression, read off the expression alone, and its grammar, which matches in
the same way. A level of an expression takes at most two levels of nodes, so the greatest height
that is compiled stays well within the default bound on the depth. -/

namespace Peg

/-- A position in a text, the end included. -/
abbrev Place (scalars : Array Char) := Fin (scalars.size + 1)

def Source.place (source : Source) : Place source.scalars :=
  ⟨source.position, Nat.lt_succ_of_le source.position_le⟩

section Repetition
variable {size : Nat} (step : Fin (size + 1) → Option (Fin (size + 1)))

/-- As many matches in a row as there are, up to the first that does not move on. -/
def greedy (place : Fin (size + 1)) : Fin (size + 1) :=
  match step place with
  | none => place
  | some next => if place < next then greedy next else place
termination_by size - place

def inRow : Nat → Fin (size + 1) → Option (Fin (size + 1))
  | 0, place => some place
  | count + 1, place => (step place).bind (inRow count)

end Repetition

/-- Where an expression ends that begins at a place, if it matches there. -/
def Expression.meaning (scalars : Array Char) : Expression → Place scalars → Option (Place scalars)
  | .literal text, place =>
    if found : place + text.length < scalars.size + 1 ∧
        (scalars.extract place (place + text.length)).toList = text.toList then
      some ⟨place + text.length, found.1⟩
    else none
  | .modified inner .oneOrMore, place =>
    (inner.meaning scalars place).map (greedy (inner.meaning scalars))
  | .modified inner .optional, place => some ((inner.meaning scalars place).getD place)
  | .modified inner .negate, place =>
    if (inner.meaning scalars place).isSome then none else some place
  | .times inner count, place => inRow (inner.meaning scalars) count place
  | .sequence left right, place => (left.meaning scalars place).bind (right.meaning scalars)
  | .choice left right, place => (left.meaning scalars place).or (right.meaning scalars place)

namespace Proofs

def Holds (grammar : Grammar) : Nat → List Node → Prop :=
  Along fun id node => grammar.node? id = some node

section Holding
variable {grammar : Grammar} {base : Nat} {node : Node}

theorem Holds.whole {inner : Expression} {rest : List Node}
    (holds : Holds grammar base (inner.nodes base ++ node :: rest)) :
    Holds grammar base (inner.nodes base) ∧ grammar.node? (base + (inner.rootPlace + 1)) = some node ∧
      Holds grammar (base + (inner.rootPlace + 1) + 1) rest := by
  obtain ⟨part, whole⟩ := along_append.mp holds
  rw [length_nodes] at whole
  exact ⟨part, along_cons.mp whole⟩

theorem Holds.pair {left right : Expression}
    (holds : Holds grammar base (left.nodes base ++ right.nodes (base + left.rootPlace + 1) ++ [node])) :
    Holds grammar base (left.nodes base) ∧
      Holds grammar (base + left.rootPlace + 1) (right.nodes (base + left.rootPlace + 1)) ∧
      grammar.node? (base + (left.rootPlace + 1 + right.rootPlace + 1)) = some node := by
  obtain ⟨parts, whole⟩ := along_append.mp holds
  obtain ⟨first, second⟩ := along_append.mp parts
  rw [List.length_append, length_nodes, length_nodes] at whole
  rw [length_nodes] at second
  exact ⟨first, second, (along_cons.mp whole).1⟩

end Holding

section Meaning
variable {grammar : Grammar} {scalars : Array Char}

theorem spelled_iff (chars : List Char) {position : Nat} (inside : position ≤ scalars.size) :
    Spelled .sensitive scalars chars position ↔ position + chars.length < scalars.size + 1 ∧
      (scalars.extract position (position + chars.length)).toList = chars := by
  constructor
  · intro spelled
    have fits := spelled.inside inside
    refine ⟨Nat.lt_succ_of_le fits, ?_⟩
    apply List.ext_getElem
    · simp
      omega
    · intro index _ within
      obtain ⟨actual, seen, agrees⟩ := spelled index chars[index] (List.getElem?_eq_getElem within)
      obtain ⟨_, rfl⟩ := Array.getElem?_eq_some_iff.mp seen
      simpa using (beq_iff_eq.mp agrees).symm
  · rintro ⟨fits, same⟩ index expected found
    rw [← same] at found
    obtain ⟨within, rfl⟩ := List.getElem?_eq_some_iff.mp found
    simp at within
    exact ⟨scalars[position + index], by simp, by simp [CaseRule.agrees]⟩

def Steps (grammar : Grammar) (scalars : Array Char) (height id : Nat)
    (step : Place scalars → Option (Place scalars)) : Prop :=
  ∀ place : Place scalars,
    Derives .progress grammar scalars height (.node id) place ((step place).map Fin.val)

section Operators
variable {height id inner left right : Nat} {step first second : Place scalars → Option (Place scalars)}

theorem Steps.mono {more : Nat} (steps : Steps grammar scalars height id step) (most : height ≤ more) :
    Steps grammar scalars more id step :=
  fun place => (steps place).mono most

theorem Steps.missed (steps : Steps grammar scalars height id step) {place : Place scalars}
    (result : step place = none) : Derives .progress grammar scalars height (.node id) place none := by
  have round := steps place
  rwa [result] at round

theorem Steps.hit (steps : Steps grammar scalars height id step) {place stop : Place scalars}
    (result : step place = some stop) :
    Derives .progress grammar scalars height (.node id) place (some stop.val) := by
  have round := steps place
  rwa [result] at round

theorem Steps.sequence (found : grammar.node? id = some (.sequence left right))
    (steps : Steps grammar scalars height left first) (steps' : Steps grammar scalars height right second) :
    Steps grammar scalars (height + 1) id fun place => (first place).bind second := by
  intro place
  dsimp only
  cases before : first place with
  | none => exact .sequence_fail found (steps.missed before)
  | some middle => exact .sequence found (steps.hit before) (steps' middle)

theorem Steps.choice (found : grammar.node? id = some (.choice left right))
    (steps : Steps grammar scalars height left first) (steps' : Steps grammar scalars height right second) :
    Steps grammar scalars (height + 1) id fun place => (first place).or (second place) := by
  intro place
  dsimp only
  cases before : first place with
  | none => exact .choice_right found (steps.missed before) (steps' place)
  | some stop => exact .choice_left found (steps.hit before)

theorem Steps.optional (found : grammar.node? id = some (.optional inner))
    (steps : Steps grammar scalars height inner step) :
    Steps grammar scalars (height + 1) id fun place => some ((step place).getD place) := by
  intro place
  dsimp only
  cases round : step place with
  | none => exact .optional_empty found (steps.missed round)
  | some stop => exact .optional found (steps.hit round)

theorem Steps.negate (found : grammar.node? id = some (.negate inner))
    (steps : Steps grammar scalars height inner step) :
    Steps grammar scalars (height + 1) id fun place => if (step place).isSome then none else some place := by
  intro place
  dsimp only
  cases round : step place with
  | none => exact .negate found (steps.missed round)
  | some stop => exact .negate_fail found (steps.hit round)

theorem Steps.inRow (steps : Steps grammar scalars height inner step) (count : Nat) (place : Place scalars) :
    Derives .progress grammar scalars height (.times inner count) place
      ((inRow step count place).map Fin.val) := by
  induction count generalizing place with
  | zero => exact .times_done
  | succ count ih =>
    rw [Peg.inRow]
    cases round : step place with
    | none => exact .times_fail (steps.missed round)
    | some next => exact .times_next (steps.hit round) (ih next)

theorem Steps.times {count : Nat} (found : grammar.node? id = some (.times inner count))
    (steps : Steps grammar scalars height inner step) :
    Steps grammar scalars (height + 1) id (Peg.inRow step count) :=
  fun place => .times found (steps.inRow count place)

theorem Steps.greedy (steps : Steps grammar scalars height inner step) (place : Place scalars) :
    Derives .progress grammar scalars height (.span inner) place (some (greedy step place).val) := by
  fun_induction Peg.greedy step place with
  | case1 place failed => exact .span_end (steps.missed failed)
  | case2 place next matched moved ih => exact .span_next (steps.hit matched) (fun _ => moved) ih
  | case3 place next matched still =>
    have round := steps.hit matched
    have same : next = place := Fin.ext (Nat.le_antisymm (Nat.le_of_not_lt still) (round.forward _ rfl))
    rw [same] at round
    exact .span_still rfl round

theorem Steps.span (found : grammar.node? id = some (.span inner))
    (steps : Steps grammar scalars height inner step) :
    Steps grammar scalars (height + 1) id fun place => some (Peg.greedy step place) :=
  fun place => .span found (steps.greedy place)

end Operators

/-- The two nodes of a `+` lie two levels above its pattern, those of any other operator one. -/
theorem steps_meaning {expression : Expression} {base : Nat}
    (holds : Holds grammar base (expression.nodes base)) :
    Steps grammar scalars (2 * expression.height) (base + expression.rootPlace) (expression.meaning scalars) := by
  induction expression generalizing base with
  | literal text =>
    intro place
    have found : grammar.node? base = some (.literal text .sensitive) := (along_cons.mp holds).1
    have iff := spelled_iff text.toList (Nat.le_of_lt_succ place.isLt)
    rw [String.length_toList] at iff
    by_cases spelled : Spelled .sensitive scalars text.toList place
    · rw [Expression.meaning, dif_pos (iff.mp spelled)]
      exact .literal found spelled
    · rw [Expression.meaning, dif_neg (mt iff.mpr spelled)]
      exact .literal_fail found spelled
  | modified inner modifier ih =>
    cases modifier with
    | oneOrMore =>
      obtain ⟨part, span, whole⟩ := holds.whole
      have sequence := (along_cons.mp whole).1
      have steps := ((ih part).mono (Nat.le_succ _)).sequence sequence ((ih part).span span)
      intro place
      have same : (Expression.modified inner .oneOrMore).meaning scalars place = _ := Option.map_eq_bind
      rw [same]
      exact steps place
    | optional =>
      obtain ⟨part, optional, _⟩ := holds.whole
      exact ((ih part).optional optional).mono (Nat.le_succ _)
    | negate =>
      obtain ⟨part, negate, _⟩ := holds.whole
      exact ((ih part).negate negate).mono (Nat.le_succ _)
  | times inner count ih =>
    obtain ⟨part, times, _⟩ := holds.whole
    exact ((ih part).times times).mono (Nat.le_succ _)
  | sequence left right ih ih' =>
    obtain ⟨first, second, sequence⟩ := holds.pair
    have steps := ((ih first).mono (Nat.le_max_left _ (2 * right.height))).sequence sequence
      ((ih' second).mono (Nat.le_max_right _ _))
    exact steps.mono (by simp only [Expression.height]; omega)
  | choice left right ih ih' =>
    obtain ⟨first, second, choice⟩ := holds.pair
    have steps := ((ih first).mono (Nat.le_max_left _ (2 * right.height))).choice choice
      ((ih' second).mono (Nat.le_max_right _ _))
    exact steps.mono (by simp only [Expression.height]; omega)

end Meaning

/-- An expression of at most the greatest height has a grammar, and under the default limits a run
of it, from any position and with any trace, is never aborted and ends where the meaning says. -/
theorem compiled_run_eq_meaning (expression : Expression) (low : expression.height ≤ 256)
    (repeats : expression.Repeats) :
    ∃ grammar, expression.compile = .ok grammar ∧ grammar.limits = ⟨1000, 0⟩ ∧
      ∀ (source : Source) (trace : Option Trace), ∃ run, grammar.consume source trace = .ok run ∧
        run.final.aborted = false ∧
        (∀ failure, run.final.failure = some failure → failure.kind.limit? = none) ∧
        run.result = (expression.meaning source.scalars source.place).map
          fun stop => ⟨source.position, stop⟩ := by
  obtain ⟨grammar, compiled, nodes, root, limits⟩ := compile_eq low repeats
  refine ⟨grammar, compiled, limits, ?_⟩
  intro source trace
  have holds : Holds grammar 0 (expression.nodes 0) := by
    intro index node found
    rw [Nat.zero_add, Grammar.node?, nodes, List.getElem?_toArray]
    exact found
  have steps : Steps grammar source.scalars _ _ _ := steps_meaning holds
  have derived := steps source.place
  rw [Nat.zero_add, ← root] at derived
  have low : 2 * expression.height ≤ 1000 := by omega
  obtain ⟨after, evaluation, running⟩ := derived.reaches 0 (ready_default low trace)
  refine ⟨_, evaluation.run_default limits low, running, ?_, ?_⟩
  · apply evaluation.stays_unlimited _ running
    intro failure impossible
    cases impossible
  · rw [Option.map_map]
    rfl

/-- The empty round behind the last `"ab"` ends the repetition. -/
theorem repetition_stops_at_empty_round :
    let expression : Expression := .modified (.choice (.literal "ab") (.literal "")) .oneOrMore
    expression.height ≤ 256 ∧ expression.Repeats ∧
      ∃ grammar run, expression.compile = .ok grammar ∧
        grammar.consume (.ofString "ababa") none = .ok run ∧ run.result = some ⟨0, 4⟩ := by
  intro expression
  have low : expression.height ≤ 256 := by decide
  have repeats : expression.Repeats := ⟨trivial, trivial⟩
  obtain ⟨grammar, compiled, _, runs⟩ := compiled_run_eq_meaning expression low repeats
  obtain ⟨run, ran, _, _, result⟩ := runs (.ofString "ababa") none
  refine ⟨low, repeats, grammar, run, compiled, ran, result.trans ?_⟩
  let step := Expression.meaning (Source.ofString "ababa").scalars (.choice (.literal "ab") (.literal ""))
  have first : step 0 = some 2 := rfl
  have second : step 2 = some 4 := rfl
  have third : step 4 = some 4 := rfl
  have last : greedy step 4 = 4 := by
    rw [greedy, third]
    rfl
  have rest : greedy step 2 = 4 := by
    rw [greedy, second]
    exact last
  have meaning : expression.meaning (Source.ofString "ababa").scalars (Source.ofString "ababa").place = some 4 :=
    (congrArg (Option.map (greedy step)) first).trans (congrArg some rest)
  rw [meaning]
  rfl

end Proofs
end Peg
