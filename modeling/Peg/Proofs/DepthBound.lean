import Peg.Proofs.LimitCut

/-! Deep input told from left recursion. A result needs no more levels of nesting than there are pairs
of a node and a position. Where a run that is allowed so many of them is aborted, there is no result
to be found at any depth. -/

namespace Peg.Proofs

section Aborts
variable {grammar : Grammar} {scalars : Array Char} {strict loose : Limits} {height height' id : Nat}
  {state after after' : State} {result result' : Option Span}

theorem Evaluates.untouched (stricter : strict.Stricter loose)
    (evaluation : Evaluates ⟨grammar, scalars, strict⟩ height (.visit id) state result after)
    (running : after.aborted = false) (sound : Sound ⟨grammar, scalars, strict⟩ state)
    (again : Evaluates ⟨grammar, scalars, loose⟩ height' (.visit id) state result' after') :
    Evaluates ⟨grammar, scalars, loose⟩ height' (.visit id) state result after := by
  obtain ⟨steps, _, replay⟩ := again.replayed stricter
  cases replay (evaluation.was_running running) with
  | same _ replayed _ =>
    obtain ⟨rfl, rfl⟩ := evaluation.unique replayed sound
    exact again
  | cut aborts replayed =>
    obtain ⟨_, rfl⟩ := evaluation.unique replayed sound
    cases aborts.aborted.symm.trans running

theorem Evaluates.aborted_by_depth {depth : Nat}
    (evaluation : Evaluates ⟨grammar, scalars, ⟨depth, 0⟩⟩ height (.visit id) state result after)
    (sound : Sound ⟨grammar, scalars, ⟨depth, 0⟩⟩ state) (running : state.aborted = false)
    (aborted : after.aborted = true) :
    result = none ∧ ∃ node position, after.failure = some ⟨.limitExceeded .depth, node, position⟩ := by
  obtain ⟨steps, _, replay⟩ := evaluation.replayed (Limits.stricter_refl ⟨depth, 0⟩)
  cases replay running with
  | same _ _ running => cases aborted.symm.trans running
  | cut aborts replayed =>
    obtain ⟨rfl, rfl⟩ := evaluation.unique replayed sound
    exact ⟨rfl, _, _, aborts.failure⟩

end Aborts

section Bound
variable {grammar : Grammar} {source : Source} {id height : Nat} {result : Option Span} {after : State}

/-- The number of pairs of a node and a position. -/
def depthBound (grammar : Grammar) (source : Source) : Nat := grammar.size * (source.size + 1)

theorem depthBound_pos (grammar : Grammar) (source : Source) : 0 < depthBound grammar source :=
  Nat.mul_pos (Nat.zero_lt_of_lt grammar.root_lt) (Nat.succ_pos _)

theorem Derivable.within {stop : Option Nat} {depth : Nat}
    (derivable : Derivable .progress grammar source.scalars id source.position stop)
    (deep : depth = 0 ∨ depthBound grammar source ≤ depth) (trace : Option Trace) :
    ∃ height result after, Evaluates ⟨grammar, source.scalars, ⟨depth, 0⟩⟩ height (.visit id)
      (State.initial grammar source.position trace) result after ∧ after.aborted = false := by
  obtain ⟨_, derived⟩ := derivable
  have room : Room ⟨depth, 0⟩ (depthBound grammar source) 0 :=
    ⟨rfl, deep.imp_right (Nat.le_trans (Nat.le_of_eq (Nat.zero_add _)))⟩
  obtain ⟨after, evaluation, running⟩ := (derived.bounded source.position_le).reaches 0
    (ready_initial trace source.position_le room : Ready ⟨grammar, source.scalars, ⟨depth, 0⟩⟩ _ _ _)
  exact ⟨_, _, after, evaluation, running⟩

theorem limited_evaluates (known : id < grammar.size) {depth : Nat} (positive : 0 < depth) (source : Source)
    (trace : Option Trace) : ∃ height result after,
      Evaluates ⟨grammar, source.scalars, ⟨depth, 0⟩⟩ height (.visit id)
        (State.initial grammar source.position trace) result after := by
  obtain ⟨result, after, answer⟩ :=
    evaluate_returns (.inl positive) known (sound_initial ⟨grammar, source.scalars, ⟨depth, 0⟩⟩ source.position_le trace)
  exact ⟨_, result, after, evaluates_of_eval answer⟩

theorem Evaluates.derivable {limits : Limits} {trace : Option Trace}
    (evaluation : Evaluates ⟨grammar, source.scalars, limits⟩ height (.visit id)
      (State.initial grammar source.position trace) result after)
    (running : after.aborted = false) :
    Derivable .progress grammar source.scalars id source.position (result.map Span.stop) :=
  ⟨height, evaluation.derived (sound_initial _ source.position_le trace) running⟩

/-- An aborted run that had so many levels leaves nothing to be derived. -/
theorem Evaluates.underivable {trace : Option Trace}
    (evaluation : Evaluates ⟨grammar, source.scalars, ⟨depthBound grammar source, 0⟩⟩ height (.visit id)
      (State.initial grammar source.position trace) result after)
    (aborted : after.aborted = true) (stop : Option Nat) :
    ¬ Derivable .progress grammar source.scalars id source.position stop := by
  intro derivable
  obtain ⟨_, _, _, again, running⟩ := derivable.within (.inr (Nat.le_refl _)) trace
  obtain ⟨_, rfl⟩ := evaluation.unique again (sound_initial _ source.position_le trace)
  cases aborted.symm.trans running

section Endless
variable (known : id < grammar.size)
  (underivable : ∀ stop, ¬ Derivable .progress grammar source.scalars id source.position stop)
  (trace : Option Trace)
include known underivable

theorem aborts_of_underivable {depth : Nat} (positive : 0 < depth) : ∃ run node position,
    grammar.runWith ⟨depth, 0⟩ id source trace = .ok run ∧ run.final.aborted = true ∧
      run.result = none ∧ run.final.failure = some ⟨.limitExceeded .depth, node, position⟩ := by
  obtain ⟨height, result, after, evaluation⟩ := limited_evaluates known positive source trace
  cases aborted : after.aborted with
  | false => exact absurd (evaluation.derivable aborted) (underivable _)
  | true =>
    obtain ⟨rfl, node, position, failure⟩ :=
      evaluation.aborted_by_depth (sound_initial _ source.position_le trace) rfl aborted
    exact ⟨_, node, position, runWith_iff.mpr ⟨_, _, _, rfl, evaluation⟩, aborted, rfl, failure⟩

theorem never_returns_of_underivable (fuel : Nat) :
    eval ⟨grammar, source.scalars, .unlimited⟩ fuel id (State.initial grammar source.position trace) =
      .error .outOfFuel := by
  cases answer : eval ⟨grammar, source.scalars, .unlimited⟩ fuel id
      (State.initial grammar source.position trace) with
  | error halt => rw [eval_error known answer]
  | ok pair =>
    have sound := sound_initial ⟨grammar, source.scalars, .unlimited⟩ source.position_le trace
    exact absurd (Returns.derivable ⟨fuel, answer⟩ sound rfl) (underivable _)

end Endless

end Bound

/-- The depth limit of one level for each pair of a node and a position separates deep input from left
recursion. A run that it does not abort is the run of every larger limit and of none at all. Where
it does abort the run, so does every other limit, and without one the run never ends. -/
theorem depth_bound_separates {grammar : Grammar} {id : Nat} (known : id < grammar.size) (source : Source)
    (trace : Option Trace) :
    ∃ run, grammar.runWith ⟨depthBound grammar source, 0⟩ id source trace = .ok run ∧
      (run.final.aborted = false → ∀ depth, depth = 0 ∨ depthBound grammar source ≤ depth →
        grammar.runWith ⟨depth, 0⟩ id source trace = .ok run) ∧
      (run.final.aborted = true →
        (∀ depth, 0 < depth → ∃ other node position,
          grammar.runWith ⟨depth, 0⟩ id source trace = .ok other ∧ other.final.aborted = true ∧
            other.result = none ∧ other.final.failure = some ⟨.limitExceeded .depth, node, position⟩) ∧
        ∀ fuel, eval ⟨grammar, source.scalars, .unlimited⟩ fuel id
          (State.initial grammar source.position trace) = .error .outOfFuel) := by
  have positive := depthBound_pos grammar source
  obtain ⟨height, result, after, evaluation⟩ := limited_evaluates known positive source trace
  refine ⟨_, runWith_iff.mpr ⟨_, _, _, rfl, evaluation⟩, ?_, ?_⟩
  · intro running depth deep
    have stricter : Limits.Stricter ⟨depthBound grammar source, 0⟩ ⟨depth, 0⟩ :=
      ⟨deep.imp_right fun larger => ⟨positive, larger⟩, .inl rfl⟩
    obtain ⟨_, _, _, again, _⟩ := (evaluation.derivable running).within deep trace
    exact runWith_iff.mpr ⟨_, _, _, rfl,
      evaluation.untouched stricter running (sound_initial _ source.position_le trace) again⟩
  · intro aborted
    have underivable := evaluation.underivable aborted
    exact ⟨fun _ positive => aborts_of_underivable known underivable trace positive,
      never_returns_of_underivable known underivable trace⟩

/-- A pattern that begins with itself: `sums = sums "+" / "+"`. -/
def sumsNodes : Array Node :=
  #[.rule "sums" 3, .literal "+" .sensitive, .sequence 0 1, .choice 2 1]

theorem fits_sumsNodes : ∀ place : Fin 4, ∀ child ∈ sumsNodes[place].children,
    child < 4 ∧ (sumsNodes[place].isRule = false → child < place.val) := by
  decide

def sums : Grammar where
  nodes := sumsNodes
  root := 0
  captureNames := #[]
  root_lt := by decide
  fits := by
    intro id node found
    obtain ⟨inside, rfl⟩ := Array.getElem?_eq_some_iff.mp found
    exact fits_sumsNodes ⟨id, inside⟩

theorem left_recursion_never_returns :
    sums.root < sums.size ∧ depthBound sums (.ofString "+") = 8 ∧
      (∀ depth, 0 < depth → ∃ run, sums.runWith ⟨depth, 0⟩ sums.root (.ofString "+") none = .ok run ∧
        run.final.aborted = true) ∧
      ∀ fuel, eval ⟨sums, (Source.ofString "+").scalars, .unlimited⟩ fuel sums.root
        (State.initial sums 0 none) = .error .outOfFuel := by
  have known : sums.root < sums.size := by decide
  have answers : (sums.runWith ⟨8, 0⟩ sums.root (.ofString "+") none).toOption.any (·.final.aborted) = true := by
    decide +kernel
  obtain ⟨run, ran, _, endless⟩ := depth_bound_separates known (.ofString "+") none
  have ran : sums.runWith ⟨8, 0⟩ sums.root (.ofString "+") none = .ok run := ran
  rw [ran] at answers
  obtain ⟨aborts, never⟩ := endless answers
  refine ⟨known, rfl, fun depth positive => ?_, never⟩
  obtain ⟨other, _, _, ran, aborted, _⟩ := aborts depth positive
  exact ⟨other, ran, aborted⟩

end Peg.Proofs
