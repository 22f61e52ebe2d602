import Peg.Matching.Outcome
import Peg.Proofs.Simulation

/-! What a node does without limits, as a relation between what it finds and what it leaves: the position, the
latest failure and the captures. Of the nodes entered so far, of their nesting and of the trace it sees nothing, so
the relation of a node is put together from those of its parts, and nodes with the same relation can stand for
each other. -/

namespace Peg

/-- What a node can tell from the state, and what the state tells when a run has ended. -/
structure View where
  position : Nat
  failure : Option Failure
  captures : Array (Option Span)

namespace View

def rewind (view : View) (position : Nat) : View := { view with position := position }

def settle (view : View) (origin : Nat) (matched : Bool) : View := if matched then view else view.rewind origin

theorem settle_settle (view : View) (inner origin : Nat) (matched : Bool) :
    (view.settle inner matched).settle origin matched = view.settle origin matched := by
  cases matched <;> rfl

end View

def State.view (state : State) : View := ⟨state.position, state.failure, state.captures⟩

/-- Runs from either node return together, if they return, and tell the same. -/
def Grammar.Interchangeable (grammar : Grammar) (id other : Nat) : Prop :=
  ∀ (source : Source) (trace : Option Trace), (grammar.runWith .unlimited id source trace).map Run.outcome =
    (grammar.runWith .unlimited other source trace).map Run.outcome

namespace Proofs

/-- The state stands inside the text, and no limit has ended the run. -/
structure Underway (scalars : Array Char) (state : State) : Prop where
  running : state.aborted = false
  inside : state.position ≤ scalars.size

/-- From a state that looks like `before` the task is evaluated, with a match or without one, to a state that looks
like `after`. -/
def Takes (grammar : Grammar) (scalars : Array Char) (task : Task) (before : View) (matched : Bool) (after : View) :
    Prop :=
  ∃ height state result ending, Evaluates ⟨grammar, scalars, .unlimited⟩ height task state result ending ∧
    Underway scalars state ∧ state.view = before ∧ result.isSome = matched ∧ ending.view = after

structure LooksAlike (state twin : State) : Prop where
  view : twin.view = state.view
  aborted : twin.aborted = state.aborted

section Alike
variable {state twin : State}

theorem view_inj (looks : twin.view = state.view) : twin.position = state.position ∧ twin.failure = state.failure ∧
    twin.captures = state.captures := View.mk.inj looks

theorem simulation_looksAlike (grammar : Grammar) (scalars : Array Char) :
    Simulation ⟨grammar, scalars, .unlimited⟩ ⟨grammar, scalars, .unlimited⟩ LooksAlike where
  node := id
  scalars := rfl
  position alike := (view_inj alike.view).1
  aborted alike := alike.aborted
  within _ _ := rfl
  rewind position alike := ⟨congrArg (View.rewind · position) alike.view, alike.aborted⟩
  fail kind node alike := by
    refine ⟨?_, alike.aborted⟩
    simp only [State.view, State.fail, view_inj alike.view]
  keep slot span alike := by
    refine ⟨?_, alike.aborted⟩
    simp only [State.view, State.keep, view_inj alike.view]
  enter _ alike := ⟨alike.view, alike.aborted⟩
  leave _ _ _ alike := ⟨alike.view, alike.aborted⟩
  descend alike := ⟨alike.view, alike.aborted⟩
  ascend alike := ⟨alike.view, alike.aborted⟩

end Alike

section Evaluations
variable {grammar : Grammar} {scalars : Array Char} {task : Task} {id height : Nat} {state ending : State}
  {result : Option Span} {span : Span}

theorem Underway.sound (underway : Underway scalars state) : Sound ⟨grammar, scalars, .unlimited⟩ state := by
  refine ⟨underway.inside, ?_⟩
  intro aborted
  cases underway.running.symm.trans aborted

theorem Evaluates.underway
    (evaluation : Evaluates ⟨grammar, scalars, .unlimited⟩ height (.visit id) state result ending)
    (underway : Underway scalars state) : Underway scalars ending :=
  ⟨evaluation.stays_running (fun _ _ => rfl) underway.running, (evaluation.sound underway.sound).inside⟩

theorem Evaluates.takes (evaluation : Evaluates ⟨grammar, scalars, .unlimited⟩ height task state result ending)
    (underway : Underway scalars state) : Takes grammar scalars task state.view result.isSome ending.view :=
  ⟨_, _, _, _, evaluation, underway, rfl, rfl, rfl⟩

theorem Evaluates.result_eq
    (evaluation : Evaluates ⟨grammar, scalars, .unlimited⟩ height (.visit id) state result ending)
    (underway : Underway scalars state) :
    result = if result.isSome then some ⟨state.position, ending.position⟩ else none := by
  cases result with
  | none => rfl
  | some span =>
    obtain ⟨starts, _, _, ends⟩ := (evaluation.rollback underway.sound).matched span rfl
    obtain ⟨start, stop⟩ := span
    cases starts
    cases ends
    rfl

end Evaluations

section Takes
variable {grammar : Grammar} {scalars : Array Char} {task : Task} {id : Nat} {node : Node}
  {before middle after after' : View} {matched matched' : Bool} {height : Nat} {state ending : State}
  {result : Option Span}

theorem Takes.found (takes : Takes grammar scalars (.visit id) before true after) : ∃ height state span ending,
    Evaluates ⟨grammar, scalars, .unlimited⟩ height (.visit id) state (some span) ending ∧ Underway scalars state ∧
      state.view = before ∧ ending.view = after := by
  obtain ⟨_, _, result, _, evaluation, underway, looks, found, looks'⟩ := takes
  obtain ⟨_, rfl⟩ := Option.isSome_iff_exists.mp found
  exact ⟨_, _, _, _, evaluation, underway, looks, looks'⟩

theorem Takes.failed (takes : Takes grammar scalars (.visit id) before false after) : ∃ height state ending,
    Evaluates ⟨grammar, scalars, .unlimited⟩ height (.visit id) state none ending ∧ Underway scalars state ∧
      state.view = before ∧ ending.view = after := by
  obtain ⟨_, _, result, _, evaluation, underway, looks, failed, looks'⟩ := takes
  obtain rfl : result = none := Option.not_isSome_iff_eq_none.mp (Bool.eq_false_iff.mp failed)
  exact ⟨_, _, _, evaluation, underway, looks, looks'⟩

theorem Takes.from (takes : Takes grammar scalars task before matched after)
    (within : task.Within grammar fun _ => True) (state : State) (running : state.aborted = false)
    (looks : state.view = before) : ∃ height result ending,
    Evaluates ⟨grammar, scalars, .unlimited⟩ height task state result ending ∧ result.isSome = matched ∧
      ending.view = after := by
  obtain ⟨_, other, result, last, evaluation, underway, looks', rfl, rfl⟩ := takes
  have alike : LooksAlike other state := ⟨looks.trans looks'.symm, running.trans underway.running.symm⟩
  have finished : last.aborted = false := evaluation.stays_running (fun _ _ => rfl) underway.running
  obtain ⟨ending, again, alike'⟩ :=
    evaluation.followed (simulation_looksAlike grammar scalars).lockstep within alike (.inl finished)
  have same : task.shift 0 = task := by cases task <;> rfl
  rw [same, shift_zero] at again
  exact ⟨_, result, ending, again, rfl, alike'.view⟩

theorem Takes.behind (takes : Takes grammar scalars task middle matched after)
    (within : task.Within grammar fun _ => True) (state : State) (running : state.aborted = false)
    (looks : state.view = middle) {first : Task} {origin : State} {result' : Option Span} {ending' : State}
    (evaluation : Evaluates ⟨grammar, scalars, .unlimited⟩ height first origin result' ending') :
    ∃ height result ending, Evaluates ⟨grammar, scalars, .unlimited⟩ height first origin result' ending' ∧
      Evaluates ⟨grammar, scalars, .unlimited⟩ height task state result ending ∧ result.isSome = matched ∧
      ending.view = after := by
  obtain ⟨other, result, ending, rest, same, looks'⟩ := takes.from within state running looks
  exact ⟨max height other, result, ending, evaluation.mono (Nat.le_max_left _ _), rest.mono (Nat.le_max_right _ _),
    same, looks'⟩

theorem Takes.inside (takes : Takes grammar scalars task before matched after) : before.position ≤ scalars.size := by
  obtain ⟨_, _, _, _, _, underway, rfl, _, _⟩ := takes
  exact underway.inside

theorem Takes.inside_after (takes : Takes grammar scalars (.visit id) before matched after) :
    after.position ≤ scalars.size := by
  obtain ⟨_, _, _, _, evaluation, underway, _, _, rfl⟩ := takes
  exact (evaluation.underway underway).inside

theorem Takes.unique (takes : Takes grammar scalars (.visit id) before matched after)
    (again : Takes grammar scalars (.visit id) before matched' after') : matched = matched' ∧ after = after' := by
  obtain ⟨_, state, _, _, evaluation, underway, looks, rfl, rfl⟩ := takes
  obtain ⟨_, _, _, other, rfl, rfl⟩ := again.from trivial state underway.running looks
  obtain ⟨rfl, rfl⟩ := evaluation.unique other underway.sound
  exact ⟨rfl, rfl⟩

theorem Takes.back (takes : Takes grammar scalars (.visit id) before false after) :
    after.position = before.position := by
  obtain ⟨_, _, _, evaluation, underway, rfl, rfl⟩ := takes.failed
  exact ((evaluation.rollback underway.sound).failed rfl).1

theorem Takes.forward (takes : Takes grammar scalars (.visit id) before true after) :
    before.position ≤ after.position := by
  obtain ⟨_, _, span, _, evaluation, underway, rfl, rfl⟩ := takes.found
  obtain ⟨_, forward, _, ends⟩ := (evaluation.rollback underway.sound).matched span rfl
  exact forward.trans (Nat.le_of_eq ends.symm)

theorem Takes.settled (takes : Takes grammar scalars (.visit id) before matched after) :
    after.settle before.position matched = after := by
  cases matched with
  | true => rfl
  | false => exact congrArg after.rewind takes.back.symm

theorem takes_visit (found : grammar.node? id = some node) : Takes grammar scalars (.visit id) before matched after ↔
    Takes grammar scalars (.parts id node) before matched after := by
  constructor
  · rintro ⟨_, _, _, _, evaluation, underway, rfl, rfl, rfl⟩
    cases evaluation with
    | halted aborted => cases underway.running.symm.trans aborted
    | exceeded _ beyond => cases beyond
    | entered _ _ found' parts =>
      cases found.symm.trans found'
      exact parts.takes ⟨underway.running, underway.inside⟩
  · intro takes
    have ⟨_, state, _, _, _, underway, looks, _, _⟩ := takes
    obtain ⟨_, _, _, parts, rfl, rfl⟩ := takes.from ⟨trivial, found⟩ (state.enter id).descend underway.running looks
    exact looks ▸ (Evaluates.entered underway.running rfl found parts).takes underway

theorem takes_sequence {left right : Nat} :
    Takes grammar scalars (.parts id (.sequence left right)) before matched after ↔
      ∃ last, after = last.settle before.position matched ∧
        (matched = false ∧ Takes grammar scalars (.visit left) before false last ∨
        ∃ middle, Takes grammar scalars (.visit left) before true middle ∧
          Takes grammar scalars (.visit right) middle matched last) := by
  constructor
  · rintro ⟨_, _, _, _, evaluation, underway, rfl, rfl, rfl⟩
    cases evaluation with
    | sequence_left first => exact ⟨_, rfl, .inl ⟨rfl, first.takes underway⟩⟩
    | sequence_right first second | sequence first second =>
      exact ⟨_, rfl, .inr ⟨_, first.takes underway, second.takes (first.underway underway)⟩⟩
  · rintro ⟨last, rfl, ⟨rfl, failed⟩ | ⟨middle, found, rest⟩⟩
    · obtain ⟨_, _, _, first, underway, rfl, rfl⟩ := failed.failed
      exact (Evaluates.sequence_left first).takes underway
    · obtain ⟨_, _, _, _, first, underway, rfl, rfl⟩ := found.found
      obtain ⟨_, result, _, first, second, rfl, rfl⟩ :=
        rest.behind trivial _ (first.underway underway).running rfl first
      cases result with
      | none => exact (Evaluates.sequence_right first second).takes underway
      | some last => exact (Evaluates.sequence first second).takes underway

end Takes

section Runs
variable {grammar : Grammar} {id other : Nat}

theorem outcome_eq_of_view {source : Source} {result : Option Span} {after ending : State}
    (looks : ending.view = after.view) :
    Run.outcome ⟨grammar, source, other, result, ending⟩ = Run.outcome ⟨grammar, source, id, result, after⟩ := by
  simp only [Run.outcome, Run.source, view_inj looks]

theorem runs_of_takes {source : Source} {trace : Option Trace} {run : Run}
    (follows : ∀ {scalars before matched after}, Takes grammar scalars (.visit id) before matched after →
      Takes grammar scalars (.visit other) before matched after)
    (ran : grammar.runWith .unlimited id source trace = .ok run) :
    ∃ run', grammar.runWith .unlimited other source trace = .ok run' ∧ run'.outcome = run.outcome := by
  obtain ⟨_, result, after, rfl, evaluation⟩ := runWith_iff.mp ran
  have underway : Underway source.scalars (State.initial grammar source.position trace) := ⟨rfl, source.position_le⟩
  obtain ⟨_, result', ending, again, same, looks⟩ := (follows (evaluation.takes underway)).from trivial _ rfl rfl
  have equal : result' = result := by
    rw [again.result_eq underway, evaluation.result_eq underway, same, (view_inj looks).1]
  exact ⟨_, runWith_iff.mpr ⟨_, _, _, rfl, equal ▸ again⟩, outcome_eq_of_view looks⟩

theorem interchangeable_of_takes (known : id < grammar.size) (known' : other < grammar.size)
    (same : ∀ {scalars before matched after}, Takes grammar scalars (.visit id) before matched after ↔
      Takes grammar scalars (.visit other) before matched after) : grammar.Interchangeable id other := by
  intro source trace
  cases ran : grammar.runWith .unlimited id source trace with
  | ok run =>
    obtain ⟨run', ran', equal⟩ := runs_of_takes same.mp ran
    rw [ran', Except.map, Except.map, equal]
  | error halt =>
    cases ran' : grammar.runWith .unlimited other source trace with
    | ok run' =>
      obtain ⟨run, again, _⟩ := runs_of_takes same.mpr ran'
      cases ran.symm.trans again
    | error halt' => rw [error_of_runWith known ran, error_of_runWith known' ran']

end Runs

end Proofs
end Peg
