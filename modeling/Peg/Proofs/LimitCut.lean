import Peg.Proofs.Termination
import Peg.Proofs.TraceLog

/-! Limits cut a run at its first evaluation that is beyond them and change nothing before. A run under
looser limits is replayed under stricter ones: every part of it either goes the same way, or the
replay is aborted in it, and from there on each node around it does nothing but fail. -/

namespace Peg.Proofs

def Clear (limits : Limits) (before : Nat) (steps : List Step) : Prop :=
  ∀ index step, steps[index]? = some step → ¬ limits.Offends (before + index + 1) step.depth

/-- The step at index `last` is the first of these steps that is beyond the limits. -/
structure FirstOffence (limits : Limits) (before : Nat) (steps : List Step) (last : Nat) (step : Step) :
    Prop where
  found : steps[last]? = some step
  offends : limits.Offends (before + last + 1) step.depth
  clear : ∀ index earlier, index < last → steps[index]? = some earlier →
    ¬ limits.Offends (before + index + 1) earlier.depth

/-- A replay was aborted at one of the steps of the original. -/
structure Cut (limits : Limits) (state : State) (steps : List Step) (last : Nat) (step : Step)
    (cut : State) : Prop where
  offence : FirstOffence limits state.steps steps last step
  aborted : cut.aborted = true
  failure : cut.failure =
    some ⟨.limitExceeded (limits.offended (state.steps + last + 1)), step.node, step.position⟩
  trace : ∃ part, cut.trace = state.trace.map (·.append part) ∧
    CutShort (limits.offended (state.steps + last + 1)) steps last part

section Steps
variable {limits : Limits} {before last : Nat} {first second : List Step} {step : Step}

theorem FirstOffence.inside (offence : FirstOffence limits before first last step) : last < first.length :=
  (List.getElem?_eq_some_iff.mp offence.found).1

theorem clear_nil : Clear limits before [] := by
  intro index step impossible
  cases impossible

theorem clear_singleton (within : ¬ limits.Offends (before + 1) step.depth) : Clear limits before [step] := by
  intro index other found
  obtain ⟨rfl, rfl⟩ : index = 0 ∧ step = other := by simpa [List.getElem?_singleton] using found
  exact within

theorem Clear.append (clear : Clear limits before first) (rest : Clear limits (before + first.length) second) :
    Clear limits before (first ++ second) := by
  intro index step found
  rcases Nat.lt_or_ge index first.length with earlier | later
  · rw [List.getElem?_append_left earlier] at found
    exact clear index step found
  · obtain ⟨index, rfl⟩ := Nat.exists_eq_add_of_le later
    rw [List.getElem?_append_right later, Nat.add_sub_cancel_left] at found
    rw [← Nat.add_assoc before]
    exact rest index step found

theorem FirstOffence.append_left (offence : FirstOffence limits before first last step) :
    FirstOffence limits before (first ++ second) last step := by
  refine ⟨?_, offence.offends, ?_⟩
  · rw [List.getElem?_append_left offence.inside]
    exact offence.found
  · intro index earlier behind found
    rw [List.getElem?_append_left (Nat.lt_trans behind offence.inside)] at found
    exact offence.clear index earlier behind found

theorem FirstOffence.append_right (offence : FirstOffence limits (before + first.length) second last step)
    (clear : Clear limits before first) :
    FirstOffence limits before (first ++ second) (first.length + last) step := by
  refine ⟨?_, ?_, ?_⟩
  · rw [List.getElem?_append_right (Nat.le_add_right _ _), Nat.add_sub_cancel_left]
    exact offence.found
  · rw [← Nat.add_assoc before]
    exact offence.offends
  · intro index earlier behind found
    rcases Nat.lt_or_ge index first.length with early | later
    · rw [List.getElem?_append_left early] at found
      exact clear index earlier found
    · obtain ⟨index, rfl⟩ := Nat.exists_eq_add_of_le later
      rw [List.getElem?_append_right later, Nat.add_sub_cancel_left] at found
      rw [← Nat.add_assoc before]
      exact offence.clear index earlier (Nat.lt_of_add_lt_add_left behind) found

theorem FirstOffence.unique {last' : Nat} {step' : Step} (offence : FirstOffence limits before first last step)
    (again : FirstOffence limits before first last' step') : last = last' ∧ step = step' := by
  have same : last = last' := by
    rcases Nat.lt_trichotomy last last' with earlier | same | later
    · exact absurd offence.offends (again.clear last step earlier offence.found)
    · exact same
    · exact absurd again.offends (offence.clear last' step' later again.found)
  subst same
  exact ⟨rfl, Option.some.inj (offence.found.symm.trans again.found)⟩

end Steps

section Cuts
variable {limits : Limits} {state middle after cut : State} {last id : Nat} {step : Step}
  {first second inner : List Step}

theorem Cut.rewind (aborts : Cut limits state first last step cut) (position : Nat) :
    Cut limits state first last step (cut.rewind position) :=
  ⟨aborts.offence, aborts.aborted, aborts.failure, aborts.trace⟩

theorem Cut.append_left (aborts : Cut limits state first last step cut) :
    Cut limits state (first ++ second) last step cut := by
  obtain ⟨part, trace, short⟩ := aborts.trace
  exact ⟨aborts.offence.append_left, aborts.aborted, aborts.failure, part, trace,
    short.append_left aborts.offence.inside⟩

theorem Cut.append_right (aborts : Cut limits middle second last step cut)
    (before : Logged state first middle) (clear : Clear limits state.steps first)
    (later : Logged middle second after) :
    Cut limits state (first ++ second) (first.length + last) step cut := by
  obtain ⟨offence, aborted, failure, part, trace, short⟩ := aborts
  have number : middle.steps + last + 1 = state.steps + (first.length + last) + 1 := by
    rw [before.count, Nat.add_assoc state.steps]
  rw [number] at failure short
  have inside := offence.inside
  rw [before.count] at offence
  have head : ∀ next, second.head? = some next → next.depth = state.depth :=
    fun next found => (later.head next found).trans before.depth
  refine ⟨offence.append_right clear, aborted, failure, first ++ part, ?_,
    short.append_right before.deep head inside⟩
  rw [trace, before.trace, Option.map_map]
  congr 1
  funext trace
  exact trace_append_append trace first part

theorem Cut.enter (aborts : Cut limits (state.enter id).descend inner last step cut)
    (logged : Logged (state.enter id).descend inner after)
    (within : ¬ limits.Offends (state.steps + 1) state.depth) (verdict : Verdict) :
    Cut limits state (entry state id verdict :: inner) (last + 1) step
      (cut.ascend.leave state.traceSize none) := by
  obtain ⟨offence, aborted, failure, part, trace, short⟩ := aborts
  have number : (state.enter id).descend.steps + last + 1 = state.steps + (last + 1) + 1 := by
    rw [Nat.add_comm last 1, ← Nat.add_assoc]
    rfl
  rw [number] at failure short
  have offence : FirstOffence limits state.steps ([entry state id verdict] ++ inner) (1 + last) step :=
    FirstOffence.append_right offence (clear_singleton within)
  rw [Nat.add_comm] at offence
  refine ⟨offence, aborted, failure, _, ?_, short.enter logged.deep⟩
  have failed : Verdict.ofResult none cut.ascend.failure =
      .failed (.limitExceeded (limits.offended (state.steps + (last + 1) + 1))) := by
    show Verdict.ofResult none cut.failure = _
    rw [failure]
    rfl
  have left : (cut.ascend.leave state.traceSize none).trace = _ := trace_leave none trace
  rw [left, failed]
  rfl

theorem cut_struck (offends : limits.Offends (state.steps + 1) state.depth) (verdict : Verdict)
    (inner : List Step) :
    Cut limits state (entry state id verdict :: inner) 0 (entry state id verdict)
      (((state.enter id).abort (limits.offended (state.steps + 1)) id).leave state.traceSize none) := by
  refine ⟨⟨rfl, offends, ?_⟩, rfl, rfl, _, ?_, cutShort_head⟩
  · intro index earlier impossible
    cases impossible
  · exact trace_leave none (map_append_nil (state.enter id).trace).symm

end Cuts

/-- What an evaluation becomes under stricter limits. -/
inductive Replay (setting : Setting) (height : Nat) (task : Task) (state : State) (result : Option Span)
    (after : State) (steps : List Step) : Prop where
  | same (clear : Clear setting.limits state.steps steps)
      (again : Evaluates setting height task state result after) (running : after.aborted = false)
  | cut {last step cut} (aborts : Cut setting.limits state steps last step cut)
      (again : Evaluates setting height task state none cut)

/-- The evaluation writes a log, and has a replay by that log. -/
def Replayed (setting : Setting) (height : Nat) (task : Task) (state : State) (result : Option Span)
    (after : State) : Prop :=
  ∃ steps, Logged state steps after ∧
    (state.aborted = false → Replay setting height task state result after steps)

/-- The task fails without a further step where its part was aborted. -/
def GivesUp (setting : Setting) (height : Nat) (part : Task) (start : State) (task : Task) (state : State) :
    Prop :=
  ∀ cut : State, cut.aborted = true → Evaluates setting height part start none cut →
    ∃ position, Evaluates setting height task state none (cut.rewind position)

section Replays
variable {setting : Setting} {height id : Nat} {task part next : Task}
  {state middle resumed last after : State} {result first second : Option Span}

theorem replayed_leaf (alike : Alike state after) (again : Evaluates setting height task state result after) :
    Replayed setting height task state result after :=
  ⟨[], logged_nil alike.trace alike.count alike.depth, fun running => .same clear_nil again (alike.aborted.trans running)⟩

theorem Replayed.through (replayed : Replayed setting height part state first last) (alike : Alike last after)
    (same : Evaluates setting height part state first last → Evaluates setting height task state result after)
    (givesUp : GivesUp setting height part state task state) :
    Replayed setting height task state result after := by
  obtain ⟨steps, logged, replay⟩ := replayed
  refine ⟨steps, logged.alike alike, fun running => ?_⟩
  cases replay running with
  | same clear again running => exact .same clear (same again) (alike.aborted.trans running)
  | cut aborts again =>
    obtain ⟨position, fails⟩ := givesUp _ aborts.aborted again
    exact .cut (aborts.rewind position) fails

theorem Replayed.andThen (before : Replayed setting height part state first middle)
    (resume : Alike middle resumed) (later : Replayed setting height next resumed second last)
    (alike : Alike last after)
    (same : Evaluates setting height part state first middle →
      Evaluates setting height next resumed second last → Evaluates setting height task state result after)
    (givesUp : GivesUp setting height part state task state)
    (givesUpLater : Evaluates setting height part state first middle →
      GivesUp setting height next resumed task state) :
    Replayed setting height task state result after := by
  obtain ⟨steps, logged, replay⟩ := before
  obtain ⟨others, logged', replay'⟩ := later
  have logged := logged.alike resume
  refine ⟨steps ++ others, (logged.append logged').alike alike, fun running => ?_⟩
  cases replay running with
  | cut aborts again =>
    obtain ⟨position, fails⟩ := givesUp _ aborts.aborted again
    exact .cut (aborts.append_left.rewind position) fails
  | same clear first running =>
    cases replay' (resume.aborted.trans running) with
    | same clear' second running =>
      rw [logged.count] at clear'
      exact .same (clear.append clear') (same first second) (alike.aborted.trans running)
    | cut aborts again =>
      obtain ⟨position, fails⟩ := givesUpLater first _ aborts.aborted again
      exact .cut ((aborts.append_right logged clear logged').rewind position) fails

theorem replayed_struck {inner : List Step} {verdict : Verdict}
    (logged : Logged state (entry state id verdict :: inner) after)
    (offends : setting.limits.Offends (state.steps + 1) state.depth) :
    Replayed setting (height + 1) (.visit id) state result after := by
  refine ⟨_, logged, fun running => ?_⟩
  exact .cut (cut_struck offends verdict inner) (.exceeded running (Limits.exceeded_eq_some_iff.mpr ⟨offends, rfl⟩))

theorem Replayed.entered {node : Node} (running : state.aborted = false)
    (found : setting.grammar.node? id = some node)
    (parts : Replayed setting height (.parts id node) (state.enter id).descend result after) :
    Replayed setting (height + 1) (.visit id) state result (after.ascend.leave state.traceSize result) := by
  obtain ⟨inner, logged, replay⟩ := parts
  by_cases offends : setting.limits.Offends (state.steps + 1) state.depth
  · exact replayed_struck (logged.leave result) offends
  · have within := Limits.exceeded_eq_none_iff.mpr offends
    refine ⟨_, logged.leave result, fun _ => ?_⟩
    cases replay running with
    | same clear again running' =>
      exact .same ((clear_singleton offends).append clear) (.entered running within found again) running'
    | cut aborts again =>
      exact .cut (aborts.enter logged offends _) (.entered running within found again)

/-- The right side of a choice is called even after an abort, and returns at once. -/
theorem Evaluates.choice_aborted {left right : Nat} {cut : State} (aborted : cut.aborted = true)
    (first : Evaluates setting height (.visit left) state none cut) :
    Evaluates setting height (.parts id (.choice left right)) state none (cut.rewind state.position) := by
  obtain ⟨height, rfl⟩ : ∃ below, height = below + 1 := by cases first <;> exact ⟨_, rfl⟩
  exact .choice_right first (.halted aborted)

end Replays

theorem Evaluates.replayed {grammar : Grammar} {scalars : Array Char} {strict loose : Limits}
    (stricter : strict.Stricter loose) {height task state result after}
    (evaluation : Evaluates ⟨grammar, scalars, loose⟩ height task state result after) :
    Replayed ⟨grammar, scalars, strict⟩ height task state result after := by
  have plain (state : State) : Alike state state := ⟨rfl, rfl, rfl, rfl⟩
  have back (state : State) (position : Nat) : Alike state (state.rewind position) := ⟨rfl, rfl, rfl, rfl⟩
  -- Each rule is replayed by itself as long as its parts are; where one of them is cut, the node has
  -- one rule left by which it fails at once.
  induction evaluation with
  | halted aborted =>
    refine ⟨[], logged_nil rfl rfl rfl, fun running => ?_⟩
    cases aborted.symm.trans running
  | @exceeded height id state limit running beyond =>
    obtain ⟨offends, _⟩ := Limits.exceeded_eq_some_iff.mp beyond
    have logged : Logged (state.enter id).descend [] ((state.enter id).descend.abort limit id) :=
      logged_nil rfl rfl rfl
    exact replayed_struck (logged.leave none) (offends.stricter stricter)
  | entered running _ found _ ih => exact ih.entered running found
  | literal_fail failed => exact replayed_leaf ⟨rfl, rfl, rfl, rfl⟩ (.literal_fail failed)
  | literal agrees => exact replayed_leaf (back _ _) (.literal agrees)
  | checker_end ended => exact replayed_leaf ⟨rfl, rfl, rfl, rfl⟩ (.checker_end ended)
  | checker_fail seen refused => exact replayed_leaf ⟨rfl, rfl, rfl, rfl⟩ (.checker_fail seen refused)
  | checker seen passed => exact replayed_leaf (back _ _) (.checker seen passed)
  | sequence_left _ ih =>
    exact ih.through (back _ _) .sequence_left fun _ _ again => ⟨_, .sequence_left again⟩
  | sequence_right _ _ ih ih' =>
    exact ih.andThen (plain _) ih' (back _ _) .sequence_right
      (fun _ _ again => ⟨_, .sequence_left again⟩) fun first _ _ again => ⟨_, .sequence_right first again⟩
  | sequence _ _ ih ih' =>
    exact ih.andThen (plain _) ih' (plain _) .sequence
      (fun _ _ again => ⟨_, .sequence_left again⟩) fun first _ _ again => ⟨_, .sequence_right first again⟩
  | choice_left _ ih =>
    exact ih.through (plain _) .choice_left fun _ aborted again => ⟨_, again.choice_aborted aborted⟩
  | choice_right _ _ ih ih' =>
    exact ih.andThen (back _ _) ih' (plain _) .choice_right
      (fun _ aborted again => ⟨_, again.choice_aborted aborted⟩)
      fun first cut _ again => ⟨cut.position, .choice_right first again⟩
  | negate_found _ ih =>
    exact ih.through ⟨rfl, rfl, rfl, rfl⟩ .negate_found
      fun cut aborted again => ⟨cut.position, .negate_aborted again aborted⟩
  | negate_aborted _ aborted ih =>
    exact ih.through (plain _) (.negate_aborted · aborted)
      fun cut aborted again => ⟨cut.position, .negate_aborted again aborted⟩
  | negate _ running ih =>
    exact ih.through (plain _) (.negate · running)
      fun cut aborted again => ⟨cut.position, .negate_aborted again aborted⟩
  | optional _ ih =>
    exact ih.through (plain _) .optional
      fun cut aborted again => ⟨cut.position, .optional_aborted again aborted⟩
  | optional_aborted _ aborted ih =>
    exact ih.through (plain _) (.optional_aborted · aborted)
      fun cut aborted again => ⟨cut.position, .optional_aborted again aborted⟩
  | optional_empty _ running ih =>
    exact ih.through (back _ _) (.optional_empty · running)
      fun cut aborted again => ⟨cut.position, .optional_aborted again aborted⟩
  | times _ ih => exact ih.through (plain _) .times fun cut _ again => ⟨cut.position, .times again⟩
  | times_done => exact replayed_leaf (plain _) .times_done
  | times_fail _ ih =>
    exact ih.through (back _ _) .times_fail fun _ _ again => ⟨_, .times_fail again⟩
  | times_next _ _ ih ih' =>
    exact ih.andThen (plain _) ih' (plain _) .times_next
      (fun _ _ again => ⟨_, .times_fail again⟩) fun first cut _ again => ⟨cut.position, .times_next first again⟩
  | span _ ih => exact ih.through (plain _) .span fun cut _ again => ⟨cut.position, .span again⟩
  | span_next _ moved _ ih ih' =>
    exact ih.andThen (plain _) ih' (plain _) (.span_next · moved ·)
      (fun _ aborted again => ⟨_, .span_aborted again aborted⟩)
      fun first cut _ again => ⟨cut.position, .span_next first moved again⟩
  | span_still _ still ih =>
    exact ih.through (plain _) (.span_still · still)
      fun _ aborted again => ⟨_, .span_aborted again aborted⟩
  | span_aborted _ aborted ih =>
    exact ih.through (back _ _) (.span_aborted · aborted)
      fun _ aborted again => ⟨_, .span_aborted again aborted⟩
  | span_end _ running ih =>
    exact ih.through (plain _) (.span_end · running)
      fun _ aborted again => ⟨_, .span_aborted again aborted⟩
  | capture_fail _ ih =>
    exact ih.through (plain _) .capture_fail fun cut _ again => ⟨cut.position, .capture_fail again⟩
  | capture _ ih =>
    exact ih.through ⟨rfl, rfl, rfl, rfl⟩ .capture fun cut _ again => ⟨cut.position, .capture_fail again⟩
  | rule _ ih => exact ih.through (plain _) .rule fun cut _ again => ⟨cut.position, .rule again⟩

/-- Limits cut a run at the first of its evaluations that is beyond them, and are otherwise invisible.
The steps of the run under looser limits tell which evaluation that is, and all that is seen of the
run under the stricter ones. -/
theorem limits_cut_first_offence {grammar : Grammar} {strict loose : Limits} {id : Nat} {source : Source}
    {before : Trace} {run : Run} (stricter : strict.Stricter loose)
    (ran : grammar.runWith loose id source (some before) = .ok run) :
    ∃ steps : List Step, run.final.trace = some (before.append steps) ∧ run.final.steps = steps.length ∧
      (Clear strict 0 steps → grammar.runWith strict id source (some before) = .ok run) ∧
      ∀ last step, FirstOffence strict 0 steps last step → ∃ cut part,
        grammar.runWith strict id source (some before) = .ok ⟨grammar, source, id, none, cut⟩ ∧
        cut.position = source.position ∧
        cut.failure = some ⟨.limitExceeded (strict.offended (last + 1)), step.node, step.position⟩ ∧
        cut.trace = some (before.append part) ∧ CutShort (strict.offended (last + 1)) steps last part := by
  obtain ⟨height, result, final, rfl, evaluation⟩ := runWith_iff.mp ran
  obtain ⟨steps, logged, replay⟩ := evaluation.replayed stricter
  have count : final.steps = 0 + steps.length := logged.count
  refine ⟨steps, logged.trace, count.trans (Nat.zero_add _), ?_, ?_⟩
  · intro clear
    cases replay rfl with
    | same _ again _ => exact runWith_iff.mpr ⟨_, _, _, rfl, again⟩
    | cut aborts _ => exact absurd aborts.offence.offends (clear _ _ aborts.offence.found)
  · intro last step offence
    cases replay rfl with
    | same clear _ _ => exact absurd offence.offends (clear last step offence.found)
    | cut aborts again =>
      obtain ⟨rfl, rfl⟩ := offence.unique aborts.offence
      obtain ⟨part, trace, short⟩ := aborts.trace
      have back := ((again.rollback (sound_initial _ source.position_le _)).failed rfl).1
      have number : (State.initial grammar source.position (some before)).steps + last + 1 = last + 1 := by
        rw [show (State.initial grammar source.position (some before)).steps = 0 from rfl, Nat.zero_add]
      have failure := aborts.failure
      rw [number] at failure short
      exact ⟨_, part, runWith_iff.mpr ⟨_, _, _, rfl, again⟩, back, failure, trace, short⟩

/-- The parentheses of the second level are entered at the fifth level of nesting, after six other
nodes of which one is closed by then. -/
theorem nested_cut_at_fifth_level :
    let source := Source.ofString "(())"
    Limits.Stricter ⟨5, 0⟩ .unlimited ∧ ∃ run, nested.runWith .unlimited 0 source (some {}) = .ok run ∧
      ∃ cut part, nested.runWith ⟨5, 0⟩ 0 source (some {}) = .ok ⟨nested, source, 0, none, cut⟩ ∧
        cut.failure = some ⟨.limitExceeded .depth, 5, 1⟩ ∧ cut.trace = some (Trace.append {} part) ∧
        part.length = 7 := by
  intro source
  have stricter : Limits.Stricter ⟨5, 0⟩ .unlimited := ⟨.inl rfl, .inl rfl⟩
  let struck : Step := ⟨5, 1, 5, .matched 3⟩
  have answers : (nested.runWith .unlimited 0 source (some {})).toOption.any (fun run =>
      let log := (run.final.trace.getD {}).steps.toList
      log[6]? == some struck && (log.take 6).all (fun step => step.depth < 5)) = true := by decide +kernel
  cases ran : nested.runWith .unlimited 0 source (some {}) with
  | error halt => cases ran ▸ answers
  | ok run =>
    refine ⟨stricter, run, rfl, ?_⟩
    obtain ⟨steps, trace, _, _, cuts⟩ := limits_cut_first_offence stricter ran
    obtain ⟨found, shallow⟩ : steps[6]? = some struck ∧ ∀ step ∈ steps.take 6, step.depth < 5 := by
      simpa [ran, trace, Except.toOption, Trace.append] using answers
    have offence : FirstOffence ⟨5, 0⟩ 0 steps 6 struck := by
      refine ⟨found, .inr ⟨Nat.zero_lt_succ 4, Nat.le_refl 5⟩, ?_⟩
      rintro index earlier behind before (many | deep)
      · exact Nat.lt_irrefl 0 many.1
      · have member := List.mem_of_getElem? ((List.getElem?_take_of_lt behind).trans before)
        exact Nat.not_lt_of_le deep.2 (shallow earlier member)
    obtain ⟨cut, part, aborted, _, failure, trace, short⟩ := cuts 6 struck offence
    exact ⟨cut, part, aborted, failure, trace, short.length⟩

end Peg.Proofs
