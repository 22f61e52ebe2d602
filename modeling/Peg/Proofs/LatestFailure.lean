import Peg.Expression.Compile
import Peg.Matching.Outcome
import Peg.Proofs.Activity
import Peg.Proofs.LastCompleted
import Peg.Proofs.Termination

/-! The failure that a run reports. Every refusal overwrites the one before, also where a choice, a look-ahead
or an optional pattern has made good for it, so in the end the failure is that of the step that was the last
to be completed with one. A negation refuses when its pattern is found, after all that was refused within. -/

namespace Peg

/-- The failure that a step stands for: its node has refused by itself. -/
def Grammar.refusal? (grammar : Grammar) (step : Step) : Option Failure :=
  if (grammar.node? step.node).any Node.refuses then
    step.failure?.map fun kind => ⟨kind, step.node, step.position⟩
  else none

/-- The text is over before the literal is, and has agreed with it so far. -/
def CaseRule.runsOut (casing : CaseRule) (expected remaining : List Char) : Bool :=
  remaining.length < expected.length && (expected.zip remaining).all fun pair => casing.agrees pair.1 pair.2

/-- The only kind of failure that a node can have by itself at a position of a text. -/
def Node.refusalKind? (scalars : Array Char) (position : Nat) : Node → Option FailureKind
  | .literal text casing =>
    some (if casing.runsOut text.toList (scalars.toList.drop position) then .endOfSource else .mismatch)
  | .checker _ _ => some (if position = scalars.size then .endOfSource else .mismatch)
  | .negate _ => some .forbidden
  | _ => none

namespace Proofs

section Literals
variable {casing : CaseRule} {expected actual : Char} {rest remaining : List Char}

theorem runsOut_nil : casing.runsOut (expected :: rest) [] = true := rfl

theorem runsOut_cons : casing.runsOut (expected :: rest) (actual :: remaining) =
    (casing.agrees expected actual && casing.runsOut rest remaining) := by
  simp only [CaseRule.runsOut, List.length_cons, Nat.add_lt_add_iff_right, List.zip_cons_cons, List.all_cons]
  exact Bool.and_left_comm _ _ _

theorem kind_of_literalFailure {scalars : Array Char} {chars : List Char} {position : Nat} {kind : FailureKind}
    (failed : Eval.literalFailure casing scalars chars position = some kind) :
    kind = if casing.runsOut chars (scalars.toList.drop position) then .endOfSource else .mismatch := by
  induction chars generalizing position with
  | nil => cases failed
  | cons expected rest ih =>
    unfold Eval.literalFailure at failed
    split at failed
    next ended =>
      have empty : scalars.toList.drop position = [] := by
        rw [List.drop_eq_nil_iff, Array.length_toList]
        exact Array.getElem?_eq_none_iff.mp ended
      cases failed
      rw [empty, runsOut_nil, if_pos rfl]
    next actual seen =>
      obtain ⟨inside, here⟩ := Array.getElem?_eq_some_iff.mp seen
      have remaining : scalars.toList.drop position = actual :: scalars.toList.drop (position + 1) := by
        rw [← here, List.drop_eq_getElem_cons inside, Array.getElem_toList]
      rw [remaining, runsOut_cons]
      split at failed
      next agrees =>
        rw [agrees, Bool.true_and]
        exact ih failed
      next differs =>
        cases failed
        rw [Bool.eq_false_iff.mpr differs, Bool.false_and, if_neg Bool.false_ne_true]

end Literals

section Refusals
variable {setting : Setting} {nodes : List Nat} {low id origin depth height : Nat} {node : Node}
  {state middle after : State} {result : Option Span} {steps : List Step} {step : Step} {failure : Failure}

theorem refusal?_of_refuses {grammar : Grammar} (found : grammar.node? step.node = some node)
    (refuses : node.refuses = true) :
    grammar.refusal? step = step.failure?.map fun kind => ⟨kind, step.node, step.position⟩ := by
  unfold Grammar.refusal?
  exact if_pos ((congrArg (Option.any Node.refuses) found).trans refuses)

theorem refusal?_of_mild {grammar : Grammar} (found : grammar.node? step.node = some node)
    (mild : node.refuses = false) : grammar.refusal? step = none := by
  unfold Grammar.refusal?
  exact if_neg (Bool.eq_false_iff.mp ((congrArg (Option.any Node.refuses) found).trans mild))

theorem refusal?_of_match {grammar : Grammar} {stop : Nat} (matched : step.verdict = .matched stop) :
    grammar.refusal? step = none := by
  unfold Grammar.refusal? Step.failure?
  rw [matched]
  exact ite_self none

/-- A node that refuses has the failure of its own step; any other leaves what its parts have left. -/
theorem Concludes.refusal (concludes : Concludes id origin node middle result after)
    (running : after.aborted = false) (found : setting.grammar.node? id = some node) :
    after.failure = (setting.grammar.refusal?
      ⟨id, origin, depth, .ofResult result after.failure⟩).or middle.failure := by
  cases concludes with
  | @passes result position blameless _ =>
    cases result with
    | some span => rw [refusal?_of_match rfl, Option.none_or, State.rewind]
    | none =>
      have mild : node.refuses = false := by
        refine Bool.eq_false_iff.mpr fun refuses => ?_
        cases running.symm.trans (blameless rfl refuses)
      rw [refusal?_of_mild found mild, Option.none_or, State.rewind]
  | refuses own =>
    rw [refusal?_of_refuses found own]
    rfl
  | keeps _ => rw [refusal?_of_match rfl, Option.none_or, State.keep]

theorem Activity.refusals (activity : Activity setting nodes low state steps after)
    (running : after.aborted = false) : Retained setting.grammar.refusal? steps state.failure after.failure := by
  induction activity with
  | quiet _ => exact retained_nil
  | append before later ih ih' =>
    exact (ih (later.was_running running)).append (ih' running) before.logged later.logged
  | struck _ _ _ _ _ => cases running
  | @visited _ _ state _ id _ inner middle result after _ _ _ _ _ found _ parts concludes ih =>
    have own : (after.ascend.leave state.traceSize result).failure =
        (setting.grammar.refusal? (entry state id (.ofResult result after.failure))).or middle.failure :=
      concludes.refusal running found
    rw [own]
    exact (ih (concludes.alike.aborted ▸ running)).visit parts.logged.deep

theorem Evaluates.refusal (evaluation : Evaluates setting height (.parts id node) state none after)
    (inside : state.position ≤ setting.scalars.size) (running : after.aborted = false)
    (refuses : node.refuses = true) : ∃ kind, after.failure = some ⟨kind, id, state.position⟩ ∧
      node.refusalKind? setting.scalars state.position = some kind := by
  cases evaluation with
  | literal_fail failed => exact ⟨_, rfl, congrArg some (kind_of_literalFailure failed).symm⟩
  | checker_end ended =>
    have last := Nat.le_antisymm inside (Array.getElem?_eq_none_iff.mp ended)
    exact ⟨_, rfl, congrArg some (if_pos last)⟩
  | checker_fail seen _ =>
    have before := (Array.getElem?_eq_some_iff.mp seen).1
    exact ⟨_, rfl, congrArg some (if_neg (Nat.ne_of_lt before))⟩
  | negate_found _ => exact ⟨_, rfl, rfl⟩
  | negate_aborted _ aborted => cases aborted.symm.trans running
  | _ => cases refuses

theorem Attempt.refusal (attempt : Attempt setting step height state result after)
    (running : after.aborted = false) (refused : setting.grammar.refusal? step = some failure) :
    ∃ node, setting.grammar.node? failure.node = some node ∧
      node.refusalKind? setting.scalars failure.position = some failure.kind := by
  obtain ⟨evaluation, sound, before, position, verdict⟩ := attempt
  cases result with
  | some span => cases refused.symm.trans (refusal?_of_match verdict)
  | none =>
    cases evaluation with
    | halted aborted => cases aborted.symm.trans before
    | exceeded _ _ => cases running
    | @entered _ _ node _ _ inner _ _ found parts =>
      cases refuses : node.refuses with
      | false => cases refused.symm.trans (refusal?_of_mild found refuses)
      | true =>
        obtain ⟨kind, left, explained⟩ := parts.refusal sound.inside running refuses
        have left : (inner.ascend.leave state.traceSize none).failure = some ⟨kind, step.node, state.position⟩ := left
        rw [refusal?_of_refuses found refuses, Step.failure?, verdict, left] at refused
        cases refused
        exact ⟨node, found, position ▸ explained⟩

end Refusals

theorem raised_of_failed {run : Run} {failure : Failure} (failed : run.result = none)
    (left : run.final.failure = some failure) :
    run.outcome.raised = some (failure.raise run.grammar) ∧
      run.outcome.toMatch = .error (failure.raise run.grammar) := by
  have raised : run.outcome.raised = some (failure.raise run.grammar) := by
    simp only [Outcome.raised, Outcome.isSuccess, Run.outcome, failed, left]
    rfl
  refine ⟨raised, ?_⟩
  rw [Outcome.toMatch, raised]
  simp only [Run.outcome, failed, Option.map_none]

theorem raised_of_matched {run : Run} {span : Span} (matched : run.result = some span) :
    run.outcome.raised = none := by
  simp only [Outcome.raised, Outcome.isSuccess, Run.outcome, matched, Option.map_some, Option.isSome_some,
    if_true]

/-- The failure of a run that was not aborted is that of the last completed step that refused by itself, and
there is none if no step did. The text at its position tells its kind. Aborted or not, a failed run
raises its failure, and a successful run raises nothing. -/
theorem failure_is_last_refusal {grammar : Grammar} {limits : Limits} {id : Nat} {source : Source}
    {trace : Option Trace} {run : Run} (ran : grammar.runWith limits id source trace = .ok run) :
    (∃ steps, run.final.trace = trace.map (·.append steps) ∧
      (run.final.aborted = false →
        (run.outcome.failure = none ↔ ∀ step ∈ steps, grammar.refusal? step = none) ∧
        (∀ failure, run.outcome.failure = some failure ↔
          ∃ index, LastCompleted grammar.refusal? steps index failure) ∧
        ∀ failure, run.outcome.failure = some failure → ∃ node, grammar.node? failure.node = some node ∧
          node.refusalKind? source.scalars failure.position = some failure.kind)) ∧
    (run.outcome.raised.isSome ↔ run.result = none) ∧
    ∀ error, run.outcome.raised = some error → run.outcome.toMatch = .error error ∧
      ∃ failure, run.outcome.failure = some failure ∧ error.kind = failure.kind ∧
        error.position = failure.position := by
  obtain ⟨height, result, final, rfl, evaluation⟩ := runWith_iff.mp ran
  have sound := sound_initial ⟨grammar, source.scalars, limits⟩ source.position_le trace
  obtain ⟨steps, activity⟩ := evaluation.acts sound (Nat.le_refl _)
  refine ⟨⟨steps, activity.logged.trace, ?_⟩, ?_⟩
  · intro running
    obtain ⟨silent, last⟩ := (activity.refusals running).latest
    refine ⟨silent, last, ?_⟩
    intro failure left
    -- The text is consulted at the step that was last, in whose evaluation the failure came about.
    obtain ⟨index, ⟨step, found, refused⟩, _⟩ := (last failure).mp left
    obtain ⟨_, _, _, _, attempt, alive⟩ := activity.attempts step (List.mem_of_getElem? found)
    exact attempt.refusal (alive running) refused
  · cases result with
    | some span =>
      rw [raised_of_matched rfl]
      exact ⟨iff_of_false Bool.false_ne_true nofun, nofun⟩
    | none =>
      obtain ⟨_, failure, left⟩ := (evaluation.rollback sound).failed rfl
      obtain ⟨raised, toMatch⟩ := @raised_of_failed ⟨grammar, source, id, none, final⟩ failure rfl left
      rw [raised]
      refine ⟨iff_of_true rfl rfl, ?_⟩
      rintro error ⟨⟩
      exact ⟨toMatch, failure, left, kind_raise _ _, position_raise _ _⟩

/-- The second alternative is found at the very end, and only then its negation refuses. -/
theorem negation_is_last_refusal :
    let pattern := Expression.modified (.choice (.literal "x") (.literal "a")) .negate
    ∃ grammar run steps index, pattern.compile = .ok grammar ∧
      grammar.consume (.ofString "a") (some {}) = .ok run ∧ run.final.trace = some (Trace.append {} steps) ∧
      LastCompleted grammar.refusal? steps index ⟨.forbidden, 3, 0⟩ ∧
      run.outcome.raised.any (·.kind == .forbidden) := by
  intro pattern
  have answers : pattern.compile.toOption.any (fun grammar =>
      (grammar.consume (.ofString "a") (some {})).toOption.any fun run => run.final.aborted == false &&
        run.outcome.failure == some ⟨.forbidden, 3, 0⟩ && run.result == none) = true := by decide +kernel
  cases compiled : pattern.compile with
  | error error => cases compiled ▸ answers
  | ok grammar =>
    cases ran : grammar.consume (.ofString "a") (some {}) with
    | error halt => simp [compiled, ran, Except.toOption] at answers
    | ok run =>
      obtain ⟨⟨running, left⟩, failed⟩ : (run.final.aborted = false ∧
          run.outcome.failure = some ⟨.forbidden, 3, 0⟩) ∧ run.result = none := by
        simpa [compiled, ran, Except.toOption] using answers
      obtain ⟨⟨steps, trace, refusals⟩, raises, raised⟩ := failure_is_last_refusal ran
      obtain ⟨index, last⟩ := ((refusals running).2.1 _).mp left
      obtain ⟨error, thrown⟩ := Option.isSome_iff_exists.mp (raises.mpr failed)
      obtain ⟨_, failure, left', kind, _⟩ := raised error thrown
      cases left.symm.trans left'
      refine ⟨grammar, run, steps, index, rfl, ran, trace, last, ?_⟩
      rw [thrown, Option.any_some, kind]
      rfl

end Proofs
end Peg
