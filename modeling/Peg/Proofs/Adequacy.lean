import Peg.Matching.Run
import Peg.Proofs.Rollback

/-! The evaluator finds every evaluation that the rules allow, with the height as its fuel. Only a
span needs an argument: every round but the last moves on, so the rounds it is given suffice. -/

namespace Peg.Proofs

/-- How the evaluator goes about a task. -/
def Task.Answers (setting : Setting) (height : Nat) : Task → State → Option Span → State → Prop
  | .visit id, state, result, after => eval setting height id state = .ok (result, after)
  | .parts id node, state, result, after =>
    Eval.node setting (eval setting height) id node state = .ok (result, after)
  | .times inner start count, state, result, after =>
    Eval.times (eval setting height inner) start count state = .ok (result, after)
  | .span inner start, state, result, after => ∀ rounds, setting.scalars.size - state.position < rounds →
    Eval.span (eval setting height inner) start rounds state = .ok (result, after)

theorem Evaluates.answers {setting height task state result after}
    (evaluation : Evaluates setting height task state result after) (sound : Sound setting state) :
    task.Answers setting height state result after := by
  induction evaluation with
  | halted aborted => simp only [Task.Answers, eval, Eval.step, aborted, ite_true]
  | exceeded running beyond =>
    simp only [Task.Answers, eval, Eval.step, running, State.steps_enter, State.depth_enter, beyond,
      Bool.false_eq_true, ite_false]
  | entered running within found _ ih =>
    have inner : Eval.node _ _ _ _ _ = _ := ih ⟨sound.inside, sound.explained⟩
    simp only [Task.Answers, eval, Eval.step, running, State.steps_enter, State.depth_enter, within,
      found, inner, Bool.false_eq_true, ite_false]
  | literal_fail failed => simp only [Task.Answers, Eval.node, Eval.literal, failed, State.fail]
  | literal agrees => simp only [Task.Answers, Eval.node, Eval.literal, agrees, State.accept, State.rewind]
  | checker_end ended => simp only [Task.Answers, Eval.node, Eval.checker, ended, State.fail]
  | checker_fail seen refused =>
    simp only [Task.Answers, Eval.node, Eval.checker, seen, refused, State.fail, Bool.false_eq_true, ite_false]
  | checker seen passed =>
    simp only [Task.Answers, Eval.node, Eval.checker, seen, passed, State.accept, State.rewind, ite_true]
  | sequence_left _ ih =>
    have first : eval _ _ _ _ = _ := ih sound
    simp only [Task.Answers, Eval.node, Eval.sequence, first]
  | sequence_right before _ ih ih' =>
    have first : eval _ _ _ _ = _ := ih sound
    have second : eval _ _ _ _ = _ := ih' (before.sound sound)
    simp only [Task.Answers, Eval.node, Eval.sequence, first, second]
  | sequence before _ ih ih' =>
    have first : eval _ _ _ _ = _ := ih sound
    have second : eval _ _ _ _ = _ := ih' (before.sound sound)
    simp only [Task.Answers, Eval.node, Eval.sequence, first, second]
  | choice_left _ ih =>
    have first : eval _ _ _ _ = _ := ih sound
    simp only [Task.Answers, Eval.node, Eval.choice, first]
  | choice_right before _ ih ih' =>
    have first : eval _ _ _ _ = _ := ih sound
    have second : eval _ _ _ _ = _ := ih' ⟨sound.inside, (before.sound sound).explained⟩
    simp only [Task.Answers, Eval.node, Eval.choice, first, second]
  | negate_found _ ih =>
    have inner : eval _ _ _ _ = _ := ih sound
    simp only [Task.Answers, Eval.node, Eval.negate, inner, State.fail]
  | negate_aborted _ aborted ih =>
    have inner : eval _ _ _ _ = _ := ih sound
    simp only [Task.Answers, Eval.node, Eval.negate, inner, aborted, ite_true]
  | negate _ running ih =>
    have inner : eval _ _ _ _ = _ := ih sound
    simp only [Task.Answers, Eval.node, Eval.negate, inner, running, Bool.false_eq_true, ite_false]
  | optional _ ih =>
    have inner : eval _ _ _ _ = _ := ih sound
    simp only [Task.Answers, Eval.node, Eval.optional, inner]
  | optional_aborted _ aborted ih =>
    have inner : eval _ _ _ _ = _ := ih sound
    simp only [Task.Answers, Eval.node, Eval.optional, inner, aborted, ite_true]
  | optional_empty _ running ih =>
    have inner : eval _ _ _ _ = _ := ih sound
    simp only [Task.Answers, Eval.node, Eval.optional, inner, running, Bool.false_eq_true, ite_false]
  | times _ ih => exact ih sound
  | times_done => rfl
  | times_fail _ ih =>
    have inner : eval _ _ _ _ = _ := ih sound
    simp only [Task.Answers, Eval.times, inner]
  | times_next before _ ih ih' =>
    have first : eval _ _ _ _ = _ := ih sound
    have rest : Eval.times _ _ _ _ = _ := ih' (before.sound sound)
    simp only [Task.Answers, Eval.times, first, rest]
  | span _ ih => exact ih sound _ (Nat.lt_succ_self _)
  | span_next before moved _ ih ih' =>
    intro rounds enough
    have first : eval _ _ _ _ = _ := ih sound
    obtain ⟨rounds, rfl⟩ := Nat.exists_eq_succ_of_ne_zero (Nat.ne_zero_of_lt enough)
    -- The round ends inside the text and has moved on, so fewer characters are left.
    obtain ⟨_, _, inside, ends⟩ := (before.rollback sound).matched _ rfl
    have rest := ih' (before.sound sound) rounds (by omega)
    simp only [Eval.span, first, moved, ite_true, rest]
  | span_still _ still ih =>
    intro rounds enough
    have inner : eval _ _ _ _ = _ := ih sound
    obtain ⟨rounds, rfl⟩ := Nat.exists_eq_succ_of_ne_zero (Nat.ne_zero_of_lt enough)
    simp only [Eval.span, inner, still, ite_false]
  | span_aborted _ aborted ih =>
    intro rounds enough
    have inner : eval _ _ _ _ = _ := ih sound
    obtain ⟨rounds, rfl⟩ := Nat.exists_eq_succ_of_ne_zero (Nat.ne_zero_of_lt enough)
    simp only [Eval.span, inner, aborted, ite_true]
  | span_end _ running ih =>
    intro rounds enough
    have inner : eval _ _ _ _ = _ := ih sound
    obtain ⟨rounds, rfl⟩ := Nat.exists_eq_succ_of_ne_zero (Nat.ne_zero_of_lt enough)
    simp only [Eval.span, inner, running, Bool.false_eq_true, ite_false]
  | capture_fail _ ih =>
    have inner : eval _ _ _ _ = _ := ih sound
    simp only [Task.Answers, Eval.node, Eval.capture, inner]
  | capture _ ih =>
    have inner : eval _ _ _ _ = _ := ih sound
    simp only [Task.Answers, Eval.node, Eval.capture, inner]
  | rule _ ih => exact ih sound

theorem evaluates_iff {setting : Setting} {height id : Nat} {state after : State}
    {result : Option Span} (sound : Sound setting state) :
    Evaluates setting height (.visit id) state result after ↔
      eval setting height id state = .ok (result, after) := by
  constructor
  · intro evaluation
    exact evaluation.answers sound
  · exact evaluates_of_eval

theorem Evaluates.evaluate_eq {setting : Setting} {height id : Nat} {state after : State}
    {result : Option Span} (evaluation : Evaluates setting height (.visit id) state result after)
    (sound : Sound setting state) (enough : height ≤ setting.fuel) :
    setting.evaluate id state = .ok (result, after) :=
  (evaluates_iff sound).mp (evaluation.mono enough)

section Runs
variable {grammar : Grammar} {limits : Limits} {id : Nat} {source : Source} {trace : Option Trace}

theorem runWith_of_evaluate {result : Option Span} {after : State}
    (answer : Setting.evaluate ⟨grammar, source.scalars, limits⟩ id
      (State.initial grammar source.position trace) = .ok (result, after)) :
    grammar.runWith limits id source trace = .ok ⟨grammar, source, id, result, after⟩ := by
  simp only [Grammar.runWith, answer]

theorem returns_of_runWith {run : Run} (ran : grammar.runWith limits id source trace = .ok run) :
    Returns ⟨grammar, source.scalars, limits⟩ id (State.initial grammar source.position trace)
      run.result run.final := by
  simp only [Grammar.runWith] at ran
  split at ran
  · cases ran
  next answer =>
    cases ran
    exact ⟨_, answer⟩

end Runs

end Peg.Proofs
