import Peg.Matching.Eval

/-! Evaluation as a relation. It has one rule for each way in which a node can end, so that a
property of evaluations is proved once for every rule and not again for every loop of the evaluator.
The height is the fuel of the evaluator: the number of nodes that are nested in each other. -/

namespace Peg.Proofs

/-- What is evaluated: a node that is visited, the parts of a node that was entered, or the rest of
a loop over the repetitions of a node that began at `start`. -/
inductive Task where
  | visit (id : Nat)
  | parts (id : Nat) (node : Node)
  | times (inner start count : Nat)
  | span (inner start : Nat)

inductive Evaluates (setting : Setting) : Nat → Task → State → Option Span → State → Prop where
  | halted {height id state} (aborted : state.aborted = true) :
      Evaluates setting (height + 1) (.visit id) state none state
  | exceeded {height id state limit} (running : state.aborted = false)
      (beyond : setting.limits.exceeded (state.steps + 1) state.depth = some limit) :
      Evaluates setting (height + 1) (.visit id) state none
        (((state.enter id).abort limit id).leave state.traceSize none)
  | entered {height id node state result after} (running : state.aborted = false)
      (within : setting.limits.exceeded (state.steps + 1) state.depth = none)
      (found : setting.grammar.node? id = some node)
      (parts : Evaluates setting height (.parts id node) (state.enter id).descend result after) :
      Evaluates setting (height + 1) (.visit id) state result
        (after.ascend.leave state.traceSize result)
  | literal_fail {height id text casing state kind}
      (failed : Eval.literalFailure casing setting.scalars text.toList state.position = some kind) :
      Evaluates setting height (.parts id (.literal text casing)) state none (state.fail kind id).2
  | literal {height id text casing state}
      (agrees : Eval.literalFailure casing setting.scalars text.toList state.position = none) :
      Evaluates setting height (.parts id (.literal text casing)) state
        (some ⟨state.position, state.position + text.length⟩)
        (state.rewind (state.position + text.length))
  | checker_end {height id name test state} (ended : setting.scalars[state.position]? = none) :
      Evaluates setting height (.parts id (.checker name test)) state none
        (state.fail .endOfSource id).2
  | checker_fail {height id name test state c} (seen : setting.scalars[state.position]? = some c)
      (refused : test c = false) :
      Evaluates setting height (.parts id (.checker name test)) state none
        (state.fail .mismatch id).2
  | checker {height id name test state c} (seen : setting.scalars[state.position]? = some c)
      (passed : test c = true) :
      Evaluates setting height (.parts id (.checker name test)) state
        (some ⟨state.position, state.position + 1⟩) (state.rewind (state.position + 1))
  | sequence_left {height id left right state after}
      (first : Evaluates setting height (.visit left) state none after) :
      Evaluates setting height (.parts id (.sequence left right)) state none
        (after.rewind state.position)
  | sequence_right {height id left right state span middle after}
      (first : Evaluates setting height (.visit left) state (some span) middle)
      (second : Evaluates setting height (.visit right) middle none after) :
      Evaluates setting height (.parts id (.sequence left right)) state none
        (after.rewind state.position)
  | sequence {height id left right state span last middle after}
      (first : Evaluates setting height (.visit left) state (some span) middle)
      (second : Evaluates setting height (.visit right) middle (some last) after) :
      Evaluates setting height (.parts id (.sequence left right)) state
        (some ⟨state.position, last.stop⟩) after
  | choice_left {height id left right state span after}
      (first : Evaluates setting height (.visit left) state (some span) after) :
      Evaluates setting height (.parts id (.choice left right)) state (some span) after
  | choice_right {height id left right state middle result after}
      (first : Evaluates setting height (.visit left) state none middle)
      (second : Evaluates setting height (.visit right) (middle.rewind state.position) result after) :
      Evaluates setting height (.parts id (.choice left right)) state result after
  | negate_found {height id inner state span after}
      (found : Evaluates setting height (.visit inner) state (some span) after) :
      Evaluates setting height (.parts id (.negate inner)) state none
        ((after.rewind state.position).fail .forbidden id).2
  | negate_aborted {height id inner state after}
      (failed : Evaluates setting height (.visit inner) state none after)
      (aborted : after.aborted = true) :
      Evaluates setting height (.parts id (.negate inner)) state none after
  | negate {height id inner state after}
      (failed : Evaluates setting height (.visit inner) state none after)
      (running : after.aborted = false) :
      Evaluates setting height (.parts id (.negate inner)) state
        (some (Span.empty state.position)) after
  | optional {height id inner state span after}
      (found : Evaluates setting height (.visit inner) state (some span) after) :
      Evaluates setting height (.parts id (.optional inner)) state (some span) after
  | optional_aborted {height id inner state after}
      (failed : Evaluates setting height (.visit inner) state none after)
      (aborted : after.aborted = true) :
      Evaluates setting height (.parts id (.optional inner)) state none after
  | optional_empty {height id inner state after}
      (failed : Evaluates setting height (.visit inner) state none after)
      (running : after.aborted = false) :
      Evaluates setting height (.parts id (.optional inner)) state
        (some (Span.empty state.position)) (after.rewind state.position)
  | times {height id inner count state result after}
      (all : Evaluates setting height (.times inner state.position count) state result after) :
      Evaluates setting height (.parts id (.times inner count)) state result after
  | times_done {height inner start state} :
      Evaluates setting height (.times inner start 0) state (some ⟨start, state.position⟩) state
  | times_fail {height inner start count state after}
      (failed : Evaluates setting height (.visit inner) state none after) :
      Evaluates setting height (.times inner start (count + 1)) state none (after.rewind start)
  | times_next {height inner start count state span middle result after}
      (first : Evaluates setting height (.visit inner) state (some span) middle)
      (rest : Evaluates setting height (.times inner start count) middle result after) :
      Evaluates setting height (.times inner start (count + 1)) state result after
  | span {height id inner state result after}
      (all : Evaluates setting height (.span inner state.position) state result after) :
      Evaluates setting height (.parts id (.span inner)) state result after
  | span_next {height inner start state last middle result after}
      (first : Evaluates setting height (.visit inner) state (some last) middle)
      (moved : state.position < last.stop)
      (rest : Evaluates setting height (.span inner start) middle result after) :
      Evaluates setting height (.span inner start) state result after
  | span_still {height inner start state last after}
      (final : Evaluates setting height (.visit inner) state (some last) after)
      (still : ¬ state.position < last.stop) :
      Evaluates setting height (.span inner start) state (some ⟨start, after.position⟩) after
  | span_aborted {height inner start state after}
      (failed : Evaluates setting height (.visit inner) state none after)
      (aborted : after.aborted = true) :
      Evaluates setting height (.span inner start) state none (after.rewind start)
  | span_end {height inner start state after}
      (failed : Evaluates setting height (.visit inner) state none after)
      (running : after.aborted = false) :
      Evaluates setting height (.span inner start) state (some ⟨start, after.position⟩) after
  | capture_fail {height id inner slot state after}
      (failed : Evaluates setting height (.visit inner) state none after) :
      Evaluates setting height (.parts id (.capture inner slot)) state none after
  | capture {height id inner slot state span after}
      (found : Evaluates setting height (.visit inner) state (some span) after) :
      Evaluates setting height (.parts id (.capture inner slot)) state (some span)
        (after.keep slot span)
  | rule {height id name target state result after}
      (body : Evaluates setting height (.visit target) state result after) :
      Evaluates setting height (.parts id (.rule name target)) state result after

section Evaluator
variable {setting : Setting} {height : Nat}

/-- What is known of the calls of an evaluator at one height. -/
private abbrev Visits (setting : Setting) (height : Nat) (visit : Nat → State → Result) : Prop :=
  ∀ {id state result after}, visit id state = .ok (result, after) →
    Evaluates setting height (.visit id) state result after

private theorem evaluates_times {visit : Nat → State → Result} (visits : Visits setting height visit)
    {inner start count : Nat} {state : State} {result : Option Span} {after : State}
    (evaluated : Eval.times (visit inner) start count state = .ok (result, after)) :
    Evaluates setting height (.times inner start count) state result after := by
  induction count generalizing state with
  | zero =>
    cases evaluated
    exact .times_done
  | succ count ih =>
    unfold Eval.times at evaluated
    split at evaluated
    · cases evaluated
    next failed =>
      cases evaluated
      exact .times_fail (visits failed)
    next first => exact .times_next (visits first) (ih evaluated)

private theorem evaluates_span {visit : Nat → State → Result} (visits : Visits setting height visit)
    {inner start rounds : Nat} {state : State} {result : Option Span} {after : State}
    (evaluated : Eval.span (visit inner) start rounds state = .ok (result, after)) :
    Evaluates setting height (.span inner start) state result after := by
  induction rounds generalizing state with
  | zero => cases evaluated
  | succ rounds ih =>
    unfold Eval.span at evaluated
    split at evaluated
    · cases evaluated
    next first =>
      dsimp only at evaluated
      split at evaluated
      next moved => exact .span_next (visits first) moved (ih evaluated)
      next still =>
        cases evaluated
        exact .span_still (visits first) still
    next failed =>
      split at evaluated
      next aborted =>
        cases evaluated
        exact .span_aborted (visits failed) aborted
      next running =>
        cases evaluated
        exact .span_end (visits failed) (Bool.eq_false_iff.mpr running)

private theorem evaluates_parts {visit : Nat → State → Result} (visits : Visits setting height visit)
    {id : Nat} {node : Node} {state : State} {result : Option Span} {after : State}
    (evaluated : Eval.node setting visit id node state = .ok (result, after)) :
    Evaluates setting height (.parts id node) state result after := by
  cases node with
  | literal text casing =>
    simp only [Eval.node, Eval.literal, Except.ok.injEq] at evaluated
    split at evaluated <;> cases evaluated
    next failed => exact .literal_fail failed
    next agrees => exact .literal agrees
  | checker name test =>
    simp only [Eval.node, Eval.checker, Except.ok.injEq] at evaluated
    split at evaluated
    next ended =>
      cases evaluated
      exact .checker_end ended
    next c seen =>
      split at evaluated <;> cases evaluated
      next passed => exact .checker seen passed
      next refused => exact .checker_fail seen (Bool.eq_false_iff.mpr refused)
  | sequence left right =>
    simp only [Eval.node, Eval.sequence] at evaluated
    split at evaluated
    · cases evaluated
    next failed =>
      cases evaluated
      exact .sequence_left (visits failed)
    next first =>
      split at evaluated <;> cases evaluated
      next failed => exact .sequence_right (visits first) (visits failed)
      next second => exact .sequence (visits first) (visits second)
  | choice left right =>
    simp only [Eval.node, Eval.choice] at evaluated
    split at evaluated
    · cases evaluated
    next found =>
      cases evaluated
      exact .choice_left (visits found)
    next failed => exact .choice_right (visits failed) (visits evaluated)
  | negate inner =>
    simp only [Eval.node, Eval.negate] at evaluated
    split at evaluated
    · cases evaluated
    next found =>
      cases evaluated
      exact .negate_found (visits found)
    next failed =>
      split at evaluated <;> cases evaluated
      next aborted => exact .negate_aborted (visits failed) aborted
      next running => exact .negate (visits failed) (Bool.eq_false_iff.mpr running)
  | optional inner =>
    simp only [Eval.node, Eval.optional] at evaluated
    split at evaluated
    · cases evaluated
    next found =>
      cases evaluated
      exact .optional (visits found)
    next failed =>
      split at evaluated <;> cases evaluated
      next aborted => exact .optional_aborted (visits failed) aborted
      next running => exact .optional_empty (visits failed) (Bool.eq_false_iff.mpr running)
  | times inner count => exact .times (evaluates_times visits evaluated)
  | span inner => exact .span (evaluates_span visits evaluated)
  | capture inner slot =>
    simp only [Eval.node, Eval.capture] at evaluated
    split at evaluated <;> cases evaluated
    next failed => exact .capture_fail (visits failed)
    next found => exact .capture (visits found)
  | rule name target => exact .rule (visits evaluated)

theorem evaluates_of_eval {id : Nat} {state : State} {result : Option Span} {after : State}
    (evaluated : eval setting height id state = .ok (result, after)) :
    Evaluates setting height (.visit id) state result after := by
  induction height generalizing id state result after with
  | zero => cases evaluated
  | succ height ih =>
    simp only [eval, Eval.step] at evaluated
    split at evaluated
    next aborted =>
      cases evaluated
      exact .halted aborted
    next running =>
      have running := Bool.eq_false_iff.mpr running
      split at evaluated
      next limit beyond =>
        cases evaluated
        exact .exceeded running beyond
      next within =>
        split at evaluated
        · cases evaluated
        next node found =>
          split at evaluated
          · cases evaluated
          next answered =>
            cases evaluated
            exact .entered running within found (evaluates_parts ih answered)

theorem evaluates_of_node {id : Nat} {node : Node} {state : State} {result : Option Span} {after : State}
    (answered : Eval.node setting (eval setting height) id node state = .ok (result, after)) :
    Evaluates setting height (.parts id node) state result after :=
  evaluates_parts evaluates_of_eval answered

end Evaluator

theorem Evaluates.succ {setting height task state result after}
    (evaluation : Evaluates setting height task state result after) :
    Evaluates setting (height + 1) task state result after := by
  induction evaluation with
  | halted aborted => exact .halted aborted
  | exceeded running beyond => exact .exceeded running beyond
  | entered running within found _ ih => exact .entered running within found ih
  | literal_fail failed => exact .literal_fail failed
  | literal agrees => exact .literal agrees
  | checker_end ended => exact .checker_end ended
  | checker_fail seen refused => exact .checker_fail seen refused
  | checker seen passed => exact .checker seen passed
  | sequence_left _ ih => exact .sequence_left ih
  | sequence_right _ _ first second => exact .sequence_right first second
  | sequence _ _ first second => exact .sequence first second
  | choice_left _ ih => exact .choice_left ih
  | choice_right _ _ first second => exact .choice_right first second
  | negate_found _ ih => exact .negate_found ih
  | negate_aborted _ aborted ih => exact .negate_aborted ih aborted
  | negate _ running ih => exact .negate ih running
  | optional _ ih => exact .optional ih
  | optional_aborted _ aborted ih => exact .optional_aborted ih aborted
  | optional_empty _ running ih => exact .optional_empty ih running
  | times _ ih => exact .times ih
  | times_done => exact .times_done
  | times_fail _ ih => exact .times_fail ih
  | times_next _ _ first rest => exact .times_next first rest
  | span _ ih => exact .span ih
  | span_next _ moved _ first rest => exact .span_next first moved rest
  | span_still _ still ih => exact .span_still ih still
  | span_aborted _ aborted ih => exact .span_aborted ih aborted
  | span_end _ running ih => exact .span_end ih running
  | capture_fail _ ih => exact .capture_fail ih
  | capture _ ih => exact .capture ih
  | rule _ ih => exact .rule ih

theorem Evaluates.mono {setting height more task state result after}
    (evaluation : Evaluates setting height task state result after) (most : height ≤ more) :
    Evaluates setting more task state result after := by
  induction most with
  | refl => exact evaluation
  | step _ ih => exact ih.succ

end Peg.Proofs
