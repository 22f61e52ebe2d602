import Peg.Proofs.DepthBound

/-! Evaluations in lockstep. An evaluation is followed from a related state, in the same grammar or another, and
in the same text or in one that has it a fixed distance further on. It goes the same way there and ends in a
related state. Where it is aborted, so is the other, if both exceed their limits together. -/

namespace Peg

namespace Span

def shift (span : Span) (distance : Nat) : Span := ⟨span.start + distance, span.stop + distance⟩

end Span

namespace Proofs

/-- The other side has the same nodes among those `inside`, and the same text at a distance. Related states
stay related in whatever an evaluation does to both of them. -/
structure Lockstep (setting other : Setting) (distance : Nat) (inside : Nat → Prop)
    (related : State → State → Prop) : Prop where
  node : ∀ {id node}, inside id → setting.grammar.node? id = some node → other.grammar.node? id = some node
  child : ∀ {id node}, inside id → setting.grammar.node? id = some node → ∀ child ∈ node.children, inside child
  scalars : ∀ position, other.scalars[position + distance]? = setting.scalars[position]?
  position : ∀ {state twin}, related state twin → twin.position = state.position + distance
  aborted : ∀ {state twin}, related state twin → twin.aborted = state.aborted
  within : ∀ {state twin}, related state twin →
    setting.limits.exceeded (state.steps + 1) state.depth = none →
    other.limits.exceeded (twin.steps + 1) twin.depth = none
  rewind : ∀ {state twin} position, related state twin →
    related (state.rewind position) (twin.rewind (position + distance))
  fail : ∀ {state twin} kind node, related state twin →
    related (state.fail kind node).2 (twin.fail kind node).2
  keep : ∀ {id inner slot state twin} span, inside id →
    setting.grammar.node? id = some (.capture inner slot) → related state twin →
    related (state.keep slot span) (twin.keep slot (span.shift distance))
  enter : ∀ {state twin} node, related state twin → related (state.enter node) (twin.enter node)
  leave : ∀ {before before' state twin} result, related before before' → related state twin →
    related (state.leave before.traceSize result) (twin.leave before'.traceSize (result.map (·.shift distance)))
  descend : ∀ {state twin : State}, related state twin → related state.descend twin.descend
  ascend : ∀ {state twin : State}, related state twin → related state.ascend twin.ascend

/-- What exceeds a limit on the one side exceeds it on the other, and aborts both. -/
structure AbortsAlike (setting other : Setting) (related : State → State → Prop) : Prop where
  beyond : ∀ {state twin limit}, related state twin →
    setting.limits.exceeded (state.steps + 1) state.depth = some limit →
    other.limits.exceeded (twin.steps + 1) twin.depth = some limit
  abort : ∀ {state twin} limit node, related state twin → related (state.abort limit node) (twin.abort limit node)

def Task.shift : Task → Nat → Task
  | .visit id, _ => .visit id
  | .parts id node, _ => .parts id node
  | .times inner start count, distance => .times inner (start + distance) count
  | .span inner start, distance => .span inner (start + distance)

def Task.Within (grammar : Grammar) (inside : Nat → Prop) : Task → Prop
  | .visit id => inside id
  | .parts id node => inside id ∧ grammar.node? id = some node
  | .times inner _ _ | .span inner _ => inside inner

def Followed (other : Setting) (distance : Nat) (related : State → State → Prop) (height : Nat) (task : Task)
    (twin : State) (result : Option Span) (after : State) : Prop :=
  ∃ ending, Evaluates other height (task.shift distance) twin (result.map (·.shift distance)) ending ∧
    related after ending

theorem literalFailure_shift {scalars longer : Array Char} {distance : Nat}
    (same : ∀ position, longer[position + distance]? = scalars[position]?) (casing : CaseRule) (chars : List Char)
    (position : Nat) : Eval.literalFailure casing longer chars (position + distance) =
      Eval.literalFailure casing scalars chars position := by
  induction chars generalizing position with
  | nil => rfl
  | cons expected rest ih =>
    have others := ih (position + 1)
    rw [Nat.add_right_comm] at others
    simp only [Eval.literalFailure, same, others]

theorem shift_some (start stop distance : Nat) : (some ⟨start, stop⟩ : Option Span).map (·.shift distance) =
    some ⟨start + distance, stop + distance⟩ := rfl

theorem shift_zero (result : Option Span) : result.map (·.shift 0) = result := by
  cases result <;> rfl

section Lockstep
variable {setting other : Setting} {distance : Nat} {inside : Nat → Prop} {related : State → State → Prop}

theorem Lockstep.first (lockstep : Lockstep setting other distance inside related) {id child : Nat} {node : Node}
    {rest : List Nat} (within : (Task.parts id node).Within setting.grammar inside)
    (children : node.children = child :: rest) : inside child :=
  lockstep.child within.1 within.2 child (children ▸ List.mem_cons_self)

theorem Lockstep.second (lockstep : Lockstep setting other distance inside related) {id first child : Nat}
    {node : Node} {rest : List Nat} (within : (Task.parts id node).Within setting.grammar inside)
    (children : node.children = first :: child :: rest) : inside child :=
  lockstep.child within.1 within.2 child (children ▸ List.mem_cons_of_mem _ List.mem_cons_self)

theorem Evaluates.followed (lockstep : Lockstep setting other distance inside related)
    {height task state result after} (evaluation : Evaluates setting height task state result after)
    (within : task.Within setting.grammar inside) {twin : State} (alike : related state twin)
    (ends : after.aborted = false ∨ AbortsAlike setting other related) :
    Followed other distance related height task twin result after := by
  -- Only the second part of a node needs to know that the first was not aborted, and has it from `was_running`.
  induction evaluation generalizing twin with
  | halted aborted => exact ⟨_, .halted ((lockstep.aborted alike).trans aborted), alike⟩
  | exceeded running beyond =>
    rcases ends with finished | together
    · cases finished
    · exact ⟨_, .exceeded ((lockstep.aborted alike).trans running) (together.beyond alike beyond),
        lockstep.leave none alike (together.abort _ _ (lockstep.enter _ alike))⟩
  | entered running below found _ ih =>
    obtain ⟨ending, parts, alike'⟩ := ih ⟨within, found⟩ (lockstep.descend (lockstep.enter _ alike)) ends
    exact ⟨_, .entered ((lockstep.aborted alike).trans running) (lockstep.within alike below)
      (lockstep.node within found) parts, lockstep.leave _ alike (lockstep.ascend alike')⟩
  | literal_fail failed =>
    rw [← literalFailure_shift lockstep.scalars, ← lockstep.position alike] at failed
    exact ⟨_, .literal_fail failed, lockstep.fail _ _ alike⟩
  | literal agrees =>
    rw [← literalFailure_shift lockstep.scalars, ← lockstep.position alike] at agrees
    refine ⟨_, ?_, lockstep.rewind _ alike⟩
    rw [shift_some, Nat.add_right_comm, ← lockstep.position alike]
    exact .literal agrees
  | checker_end ended =>
    rw [← lockstep.scalars, ← lockstep.position alike] at ended
    exact ⟨_, .checker_end ended, lockstep.fail _ _ alike⟩
  | checker_fail seen refused =>
    rw [← lockstep.scalars, ← lockstep.position alike] at seen
    exact ⟨_, .checker_fail seen refused, lockstep.fail _ _ alike⟩
  | checker seen passed =>
    rw [← lockstep.scalars, ← lockstep.position alike] at seen
    refine ⟨_, ?_, lockstep.rewind _ alike⟩
    rw [shift_some, Nat.add_right_comm, ← lockstep.position alike]
    exact .checker seen passed
  | sequence_left _ ih =>
    obtain ⟨_, first, alike'⟩ := ih (lockstep.first within rfl) alike ends
    refine ⟨_, ?_, lockstep.rewind _ alike'⟩
    rw [← lockstep.position alike]
    exact .sequence_left first
  | sequence_right _ second ih ih' =>
    obtain ⟨_, first, between⟩ := ih (lockstep.first within rfl) alike (ends.imp_left second.was_running)
    obtain ⟨_, second, alike'⟩ := ih' (lockstep.second within rfl) between ends
    refine ⟨_, ?_, lockstep.rewind _ alike'⟩
    rw [← lockstep.position alike]
    exact .sequence_right first second
  | sequence _ second ih ih' =>
    obtain ⟨_, first, between⟩ := ih (lockstep.first within rfl) alike (ends.imp_left second.was_running)
    obtain ⟨_, second, alike'⟩ := ih' (lockstep.second within rfl) between ends
    refine ⟨_, ?_, alike'⟩
    rw [shift_some, ← lockstep.position alike]
    exact .sequence first second
  | choice_left _ ih =>
    obtain ⟨_, first, alike'⟩ := ih (lockstep.first within rfl) alike ends
    exact ⟨_, .choice_left first, alike'⟩
  | choice_right _ second ih ih' =>
    obtain ⟨_, first, between⟩ := ih (lockstep.first within rfl) alike (ends.imp_left second.was_running)
    obtain ⟨_, second, alike'⟩ := ih' (lockstep.second within rfl) (lockstep.rewind _ between) ends
    rw [← lockstep.position alike] at second
    exact ⟨_, .choice_right first second, alike'⟩
  | negate_found _ ih =>
    obtain ⟨_, found, alike'⟩ := ih (lockstep.first within rfl) alike ends
    refine ⟨_, ?_, lockstep.fail _ _ (lockstep.rewind _ alike')⟩
    rw [← lockstep.position alike]
    exact .negate_found found
  | negate_aborted _ aborted ih =>
    obtain ⟨_, failed, alike'⟩ := ih (lockstep.first within rfl) alike ends
    exact ⟨_, .negate_aborted failed ((lockstep.aborted alike').trans aborted), alike'⟩
  | negate _ running ih =>
    obtain ⟨_, failed, alike'⟩ := ih (lockstep.first within rfl) alike ends
    refine ⟨_, ?_, alike'⟩
    rw [Span.empty, shift_some, ← lockstep.position alike]
    exact .negate failed ((lockstep.aborted alike').trans running)
  | optional _ ih =>
    obtain ⟨_, found, alike'⟩ := ih (lockstep.first within rfl) alike ends
    exact ⟨_, .optional found, alike'⟩
  | optional_aborted _ aborted ih =>
    obtain ⟨_, failed, alike'⟩ := ih (lockstep.first within rfl) alike ends
    exact ⟨_, .optional_aborted failed ((lockstep.aborted alike').trans aborted), alike'⟩
  | optional_empty _ running ih =>
    obtain ⟨_, failed, alike'⟩ := ih (lockstep.first within rfl) alike ends
    refine ⟨_, ?_, lockstep.rewind _ alike'⟩
    rw [Span.empty, shift_some, ← lockstep.position alike]
    exact .optional_empty failed ((lockstep.aborted alike').trans running)
  | times _ ih =>
    obtain ⟨_, all, alike'⟩ := ih (lockstep.first within rfl) alike ends
    rw [Task.shift, ← lockstep.position alike] at all
    exact ⟨_, .times all, alike'⟩
  | times_done =>
    refine ⟨_, ?_, alike⟩
    rw [shift_some, ← lockstep.position alike]
    exact .times_done
  | times_fail _ ih =>
    obtain ⟨_, failed, alike'⟩ := ih within alike ends
    exact ⟨_, .times_fail failed, lockstep.rewind _ alike'⟩
  | times_next _ rest ih ih' =>
    obtain ⟨_, first, between⟩ := ih within alike (ends.imp_left rest.was_running)
    obtain ⟨_, rest, alike'⟩ := ih' within between ends
    exact ⟨_, .times_next first rest, alike'⟩
  | span _ ih =>
    obtain ⟨_, all, alike'⟩ := ih (lockstep.first within rfl) alike ends
    rw [Task.shift, ← lockstep.position alike] at all
    exact ⟨_, .span all, alike'⟩
  | span_next _ moved rest ih ih' =>
    obtain ⟨_, first, between⟩ := ih within alike (ends.imp_left rest.was_running)
    obtain ⟨_, rest, alike'⟩ := ih' within between ends
    rw [← Nat.add_lt_add_iff_right (k := distance), ← lockstep.position alike] at moved
    exact ⟨_, .span_next first moved rest, alike'⟩
  | span_still _ still ih =>
    obtain ⟨_, final, alike'⟩ := ih within alike ends
    rw [← Nat.add_lt_add_iff_right (k := distance), ← lockstep.position alike] at still
    refine ⟨_, ?_, alike'⟩
    rw [shift_some, ← lockstep.position alike']
    exact .span_still final still
  | span_aborted _ aborted ih =>
    obtain ⟨_, failed, alike'⟩ := ih within alike ends
    exact ⟨_, .span_aborted failed ((lockstep.aborted alike').trans aborted), lockstep.rewind _ alike'⟩
  | span_end _ running ih =>
    obtain ⟨_, failed, alike'⟩ := ih within alike ends
    refine ⟨_, ?_, alike'⟩
    rw [shift_some, ← lockstep.position alike']
    exact .span_end failed ((lockstep.aborted alike').trans running)
  | capture_fail _ ih =>
    obtain ⟨_, failed, alike'⟩ := ih (lockstep.first within rfl) alike ends
    exact ⟨_, .capture_fail failed, alike'⟩
  | capture _ ih =>
    obtain ⟨_, found, alike'⟩ := ih (lockstep.first within rfl) alike ends
    exact ⟨_, .capture found, lockstep.keep _ within.1 within.2 alike'⟩
  | rule _ ih =>
    obtain ⟨_, body, alike'⟩ := ih (lockstep.first within rfl) alike ends
    exact ⟨_, .rule body, alike'⟩

end Lockstep

section Runs
variable {grammar other : Grammar} {source source' : Source} {trace trace' : Option Trace} {id : Nat}

/-- Where each run is followed by one that is aborted if and only if it is itself, the run returns if the
other one does. Without limits that is seen at a limit that no result of the other one needs. -/
theorem returns_of_followed (known : id < grammar.size)
    (follows : ∀ limits run, grammar.runWith limits id source trace = .ok run →
      ∃ run', other.runWith limits id source' trace' = .ok run' ∧ run'.final.aborted = run.final.aborted)
    {limits : Limits} {run' : Run} (ran : other.runWith limits id source' trace' = .ok run') :
    ∃ run, grammar.runWith limits id source trace = .ok run := by
  by_cases limited : 0 < limits.maxDepth ∨ 0 < limits.maxSteps
  · have sound := sound_initial ⟨grammar, source.scalars, limits⟩ source.position_le trace
    obtain ⟨result, after, answer⟩ := evaluate_returns limited known sound
    exact ⟨_, runWith_of_evaluate answer⟩
  · obtain rfl : limits = .unlimited := by
      obtain ⟨unbounded, endless⟩ := not_or.mp limited
      obtain ⟨depth, steps⟩ := limits
      cases Nat.eq_zero_of_not_pos unbounded
      cases Nat.eq_zero_of_not_pos endless
      rfl
    obtain ⟨_, _, _, rfl, evaluation⟩ := runWith_iff.mp ran
    have derivable := evaluation.derivable (evaluation.stays_running (fun _ _ => rfl) rfl)
    by_cases derived : ∃ stop, Derivable .progress grammar source.scalars id source.position stop
    · obtain ⟨stop, derived⟩ := derived
      obtain ⟨run, ran, _⟩ := derived.runs trace
      exact ⟨run, ran⟩
    · have never := not_exists.mp derived
      obtain ⟨run, _, _, ran, aborted, _⟩ :=
        aborts_of_underivable known never trace (depthBound_pos other source')
      obtain ⟨run', ran', alike⟩ := follows _ run ran
      obtain ⟨_, _, _, again, running⟩ := derivable.within (.inr (Nat.le_refl _)) trace'
      cases ran'.symm.trans (runWith_iff.mpr ⟨_, _, _, rfl, again⟩)
      cases (alike.trans aborted).symm.trans running

theorem error_of_runWith {limits : Limits} {halt : Halt} (known : id < grammar.size)
    (failed : grammar.runWith limits id source trace = .error halt) : halt = .outOfFuel := by
  simp only [Grammar.runWith] at failed
  split at failed
  next evaluated =>
    cases failed
    exact eval_error known evaluated
  · cases failed

/-- Runs in lockstep return together, if they return, and what they leave behind is related. -/
theorem runs_in_lockstep {distance : Nat} {inside : Nat → Prop} {related : State → State → Prop}
    (lockstep : ∀ limits, Lockstep ⟨grammar, source.scalars, limits⟩ ⟨other, source'.scalars, limits⟩ distance inside
      related ∧ AbortsAlike ⟨grammar, source.scalars, limits⟩ ⟨other, source'.scalars, limits⟩ related)
    (within : inside id) (known : id < grammar.size)
    (alike : related (State.initial grammar source.position trace) (State.initial other source'.position trace'))
    (limits : Limits) :
    (grammar.runWith limits id source trace = .error .outOfFuel ∧
      other.runWith limits id source' trace' = .error .outOfFuel) ∨
    ∃ result after ending, grammar.runWith limits id source trace = .ok ⟨grammar, source, id, result, after⟩ ∧
      other.runWith limits id source' trace' =
        .ok ⟨other, source', id, result.map (·.shift distance), ending⟩ ∧ related after ending := by
  have follows : ∀ limits {height result after}, Evaluates ⟨grammar, source.scalars, limits⟩ height (.visit id)
      (State.initial grammar source.position trace) result after → ∃ ending,
      other.runWith limits id source' trace' =
        .ok ⟨other, source', id, result.map (·.shift distance), ending⟩ ∧ related after ending := by
    intro limits height result after evaluation
    obtain ⟨ending, again, alike'⟩ := evaluation.followed (lockstep limits).1 within alike (.inr (lockstep limits).2)
    exact ⟨ending, runWith_iff.mpr ⟨_, _, _, rfl, again⟩, alike'⟩
  cases ran : grammar.runWith limits id source trace with
  | ok run =>
    obtain ⟨_, result, after, rfl, evaluation⟩ := runWith_iff.mp ran
    obtain ⟨ending, ran', alike'⟩ := follows limits evaluation
    exact .inr ⟨result, after, ending, rfl, ran', alike'⟩
  | error halt =>
    refine .inl ⟨congrArg _ (error_of_runWith known ran), ?_⟩
    have found : grammar.node? id = some grammar.nodes[id] := Array.getElem?_eq_getElem known
    have known' : id < other.size := (Array.getElem?_eq_some_iff.mp ((lockstep limits).1.node within found)).1
    cases ran' : other.runWith limits id source' trace' with
    | error halt' => rw [error_of_runWith known' ran']
    | ok run' =>
      obtain ⟨run, again⟩ := returns_of_followed known (fun limits run ran => by
        obtain ⟨_, result, after, rfl, evaluation⟩ := runWith_iff.mp ran
        obtain ⟨ending, ran', alike'⟩ := follows limits evaluation
        exact ⟨_, ran', (lockstep limits).1.aborted alike'⟩) ran'
      cases ran.symm.trans again

end Runs

end Proofs
end Peg
