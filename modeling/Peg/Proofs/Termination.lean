import Peg.Proofs.UnlimitedRun

/-! A run under a limit always comes to an end, the fuel of an evaluation is enough for every end that
it can come to, and nothing but fuel can be missing. -/

namespace Peg.Proofs

theorem Evaluates.steps_le {setting height task state result after}
    (evaluation : Evaluates setting height task state result after) : state.steps ≤ after.steps := by
  have kept : Kept setting fun later => state.steps ≤ later.steps := by
    constructor
    case enter =>
      intro later node grown
      exact Nat.le_succ_of_le grown
    all_goals intros; assumption
  exact evaluation.keeps kept (Nat.le_refl _)

/-- From every such state these nodes return, and what they return in is such a state again. -/
structure Returning (setting : Setting) (height : Nat) (nodes : List Nat) (property : State → Prop) : Prop where
  returns : ∀ id ∈ nodes, ∀ state, Sound setting state → property state →
    ∃ result after, Evaluates setting height (.visit id) state result after
  kept : ∀ {id state result after}, Evaluates setting height (.visit id) state result after →
    Sound setting state → property state → property after
  rewind : ∀ {state} position, property state → property (state.rewind position)

section Parts
variable {setting : Setting} {height inner : Nat} {nodes : List Nat} {property : State → Prop} {state : State}

theorem Returning.times (returning : Returning setting height nodes property) (member : inner ∈ nodes)
    (start count : Nat) (sound : Sound setting state) (holds : property state) :
    ∃ result after, Evaluates setting height (.times inner start count) state result after := by
  induction count generalizing state with
  | zero => exact ⟨_, _, .times_done⟩
  | succ count ih =>
    obtain ⟨result, middle, first⟩ := returning.returns inner member state sound holds
    cases result with
    | none => exact ⟨_, _, .times_fail first⟩
    | some span =>
      obtain ⟨result, after, rest⟩ := ih (first.sound sound) (returning.kept first sound holds)
      exact ⟨_, _, .times_next first rest⟩

theorem Returning.span (returning : Returning setting height nodes property) (member : inner ∈ nodes)
    (start : Nat) (sound : Sound setting state) (holds : property state) :
    ∃ result after, Evaluates setting height (.span inner start) state result after := by
  generalize leftEq : setting.scalars.size - state.position = left
  induction left using Nat.strongRecOn generalizing state with
  | ind left ih =>
    obtain ⟨result, middle, first⟩ := returning.returns inner member state sound holds
    cases result with
    | none =>
      cases aborted : middle.aborted with
      | true => exact ⟨_, _, .span_aborted first aborted⟩
      | false => exact ⟨_, _, .span_end first aborted⟩
    | some last =>
      by_cases moved : state.position < last.stop
      · obtain ⟨_, _, inside, ends⟩ := (first.rollback sound).matched last rfl
        obtain ⟨result, after, rest⟩ :=
          ih _ (by omega) (first.sound sound) (returning.kept first sound holds) rfl
        exact ⟨_, _, .span_next first moved rest⟩
      · exact ⟨_, _, .span_still first moved⟩

theorem Returning.parts {node : Node} (returning : Returning setting height node.children property) (id : Nat)
    (sound : Sound setting state) (holds : property state) :
    ∃ result after, Evaluates setting height (.parts id node) state result after := by
  cases node with
  | literal text casing =>
    cases failed : Eval.literalFailure casing setting.scalars text.toList state.position with
    | some kind => exact ⟨_, _, .literal_fail failed⟩
    | none => exact ⟨_, _, .literal failed⟩
  | checker name test =>
    cases seen : setting.scalars[state.position]? with
    | none => exact ⟨_, _, .checker_end seen⟩
    | some c =>
      cases passed : test c with
      | true => exact ⟨_, _, .checker seen passed⟩
      | false => exact ⟨_, _, .checker_fail seen passed⟩
  | sequence left right =>
    obtain ⟨result, middle, first⟩ := returning.returns left List.mem_cons_self state sound holds
    cases result with
    | none => exact ⟨_, _, .sequence_left first⟩
    | some span =>
      obtain ⟨result, after, second⟩ := returning.returns right (List.mem_cons_of_mem _ List.mem_cons_self)
        middle (first.sound sound) (returning.kept first sound holds)
      cases result with
      | none => exact ⟨_, _, .sequence_right first second⟩
      | some last => exact ⟨_, _, .sequence first second⟩
  | choice left right =>
    obtain ⟨result, middle, first⟩ := returning.returns left List.mem_cons_self state sound holds
    cases result with
    | none =>
      have back : Sound setting (middle.rewind state.position) := ⟨sound.inside, (first.sound sound).explained⟩
      obtain ⟨result, after, second⟩ := returning.returns right (List.mem_cons_of_mem _ List.mem_cons_self)
        _ back (returning.rewind _ (returning.kept first sound holds))
      exact ⟨_, _, .choice_right first second⟩
    | some span => exact ⟨_, _, .choice_left first⟩
  | negate inner =>
    obtain ⟨result, after, first⟩ := returning.returns inner List.mem_cons_self state sound holds
    cases result with
    | some span => exact ⟨_, _, .negate_found first⟩
    | none =>
      cases aborted : after.aborted with
      | true => exact ⟨_, _, .negate_aborted first aborted⟩
      | false => exact ⟨_, _, .negate first aborted⟩
  | optional inner =>
    obtain ⟨result, after, first⟩ := returning.returns inner List.mem_cons_self state sound holds
    cases result with
    | some span => exact ⟨_, _, .optional first⟩
    | none =>
      cases aborted : after.aborted with
      | true => exact ⟨_, _, .optional_aborted first aborted⟩
      | false => exact ⟨_, _, .optional_empty first aborted⟩
  | times inner count =>
    obtain ⟨result, after, all⟩ := returning.times List.mem_cons_self state.position count sound holds
    exact ⟨_, _, .times all⟩
  | span inner =>
    obtain ⟨result, after, all⟩ := returning.span List.mem_cons_self state.position sound holds
    exact ⟨_, _, .span all⟩
  | capture inner slot =>
    obtain ⟨result, after, first⟩ := returning.returns inner List.mem_cons_self state sound holds
    cases result with
    | none => exact ⟨_, _, .capture_fail first⟩
    | some span => exact ⟨_, _, .capture first⟩
  | rule name target =>
    obtain ⟨result, after, body⟩ := returning.returns target List.mem_cons_self state sound holds
    exact ⟨_, _, .rule body⟩

end Parts

/-- One of the limits leaves at most so many levels of nesting. Every level takes a step of its own. -/
def Budget (limits : Limits) (levels : Nat) (state : State) : Prop :=
  limits.Offends (state.steps + levels + 1) (state.depth + levels)

section Limited
variable {setting : Setting} {levels id : Nat} {state : State}

theorem child_known {grammar : Grammar} {node : Node} (found : grammar.node? id = some node) :
    ∀ child ∈ node.children, child < grammar.size :=
  fun child member => (grammar.fits id node found child member).1

theorem Budget.enter {limits : Limits} (budget : Budget limits (levels + 1) state) (id : Nat) :
    Budget limits levels (state.enter id).descend := by
  have depth : (state.enter id).descend.depth = state.depth + 1 := rfl
  have steps : (state.enter id).descend.steps = state.steps + 1 := rfl
  unfold Budget Limits.Offends at budget ⊢
  omega

theorem Budget.kept {height : Nat} {result : Option Span} {after : State}
    (budget : Budget setting.limits levels state)
    (evaluation : Evaluates setting height (.visit id) state result after) (sound : Sound setting state) :
    Budget setting.limits levels after := by
  have depth := (evaluation.rollback sound).depth
  have steps := evaluation.steps_le
  unfold Budget Limits.Offends at budget ⊢
  omega

/-- While a limit leaves no more than some levels, nothing can be nested deeper, so everything returns. -/
theorem Budget.returns (budget : Budget setting.limits levels state) (known : id < setting.grammar.size)
    (sound : Sound setting state) :
    ∃ result after, Evaluates setting (levels + 1) (.visit id) state result after := by
  induction levels generalizing id state with
  | zero =>
    cases aborted : state.aborted with
    | true => exact ⟨_, _, .halted aborted⟩
    | false => exact ⟨_, _, .exceeded aborted (Limits.exceeded_eq_some_iff.mpr ⟨budget, rfl⟩)⟩
  | succ levels ih =>
    cases aborted : state.aborted with
    | true => exact ⟨_, _, .halted aborted⟩
    | false =>
      cases within : setting.limits.exceeded (state.steps + 1) state.depth with
      | some limit => exact ⟨_, _, .exceeded aborted within⟩
      | none =>
        have found : setting.grammar.node? id = some setting.grammar.nodes[id] := Array.getElem?_eq_getElem known
        have returning : Returning setting (levels + 1) setting.grammar.nodes[id].children
            (Budget setting.limits levels) := by
          refine ⟨?_, fun evaluation sound budget => budget.kept evaluation sound, fun _ budget => budget⟩
          intro child member state sound budget
          exact ih budget (child_known found child member) sound
        have entered : Sound setting (state.enter id).descend := ⟨sound.inside, sound.explained⟩
        obtain ⟨result, after, parts⟩ := returning.parts id entered (budget.enter id)
        exact ⟨_, _, .entered aborted within found parts⟩

theorem evaluate_returns (limited : 0 < setting.limits.maxDepth ∨ 0 < setting.limits.maxSteps)
    (known : id < setting.grammar.size) (sound : Sound setting state) :
    ∃ result after, setting.evaluate id state = .ok (result, after) := by
  obtain ⟨levels, fuel, budget⟩ : ∃ levels, setting.fuel = levels + 1 ∧ Budget setting.limits levels state := by
    unfold Setting.fuel
    split
    · next deep => exact ⟨_, rfl, .inr ⟨deep, Nat.le_add_left _ _⟩⟩
    · next flat =>
      have many := limited.resolve_left flat
      rw [if_pos many]
      exact ⟨_, rfl, .inl ⟨many, Nat.lt_succ_of_le (Nat.le_add_left _ _)⟩⟩
  obtain ⟨result, after, evaluation⟩ := budget.returns known sound
  exact ⟨result, after, evaluation.evaluate_eq sound (Nat.le_of_eq fuel.symm)⟩

end Limited

section Fuel
variable {setting : Setting} {id : Nat} {state after : State} {result : Option Span}

theorem Evaluates.unique {height height' : Nat} {result' : Option Span} {after' : State}
    (evaluation : Evaluates setting height (.visit id) state result after)
    (again : Evaluates setting height' (.visit id) state result' after') (sound : Sound setting state) :
    result = result' ∧ after = after' := by
  have one := (evaluates_iff sound).mp (evaluation.mono (Nat.le_max_left height height'))
  have two := (evaluates_iff sound).mp (again.mono (Nat.le_max_right height height'))
  exact Prod.mk.inj (Except.ok.inj (one.symm.trans two))

theorem fuel_pos (setting : Setting) : 1 ≤ setting.fuel := by
  unfold Setting.fuel
  split
  · exact Nat.le_add_left _ _
  · split <;> exact Nat.le_add_left _ _

theorem Derives.evaluates {stop : Option Nat} {height : Nat}
    (derived : Derives .progress setting.grammar setting.scalars height (.node id) state.position stop)
    (unlimited : setting.limits.maxSteps = 0 ∧ setting.limits.maxDepth = 0) (sound : Sound setting state)
    (running : state.aborted = false) :
    ∃ result after, setting.evaluate id state = .ok (result, after) := by
  have room : Room setting.limits (setting.grammar.size * (setting.scalars.size + 1)) state.depth :=
    ⟨unlimited.1, .inl unlimited.2⟩
  obtain ⟨after, evaluation, _⟩ :=
    (derived.bounded sound.inside).reaches 0 ⟨rfl, sound, running, room⟩
  have enough : setting.grammar.size * (setting.scalars.size + 1) ≤ setting.fuel := by
    simp only [Setting.fuel, unlimited, Nat.lt_irrefl, ite_false]
    exact Nat.le_succ _
  exact ⟨_, after, evaluation.evaluate_eq sound enough⟩

theorem Evaluates.evaluate {height : Nat}
    (evaluation : Evaluates setting height (.visit id) state result after) (sound : Sound setting state) :
    setting.evaluate id state = .ok (result, after) := by
  have answered : ∃ result after, setting.evaluate id state = .ok (result, after) := by
    cases evaluation with
    | halted aborted =>
      have brief : Evaluates setting 1 (.visit id) state _ _ := .halted aborted
      exact ⟨_, _, brief.evaluate_eq sound (fuel_pos setting)⟩
    | exceeded running beyond =>
      have brief : Evaluates setting 1 (.visit id) state _ _ := .exceeded running beyond
      exact ⟨_, _, brief.evaluate_eq sound (fuel_pos setting)⟩
    | entered running within found parts =>
      have whole : Evaluates setting _ (.visit id) state _ _ := .entered running within found parts
      by_cases limited : 0 < setting.limits.maxDepth ∨ 0 < setting.limits.maxSteps
      · exact evaluate_returns limited (Array.getElem?_eq_some_iff.mp found).1 sound
      · have unlimited : setting.limits.maxSteps = 0 ∧ setting.limits.maxDepth = 0 := by omega
        have free : ∀ steps depth, setting.limits.exceeded steps depth = none := by
          intro steps depth
          simp only [Limits.exceeded, unlimited, Nat.lt_irrefl, false_and, ite_false]
        exact (whole.derived sound (whole.stays_running free running)).evaluates unlimited sound running
  obtain ⟨result', after', answer⟩ := answered
  obtain ⟨rfl, rfl⟩ := evaluation.unique (evaluates_of_eval answer) sound
  exact answer

end Fuel

section Errors
variable {visit : State → Result} {start : Nat} {state : State} {halt : Halt}

theorem times_error {count : Nat} (failed : Eval.times visit start count state = .error halt) :
    ∃ entry, visit entry = .error halt := by
  induction count generalizing state with
  | zero => cases failed
  | succ count ih =>
    unfold Eval.times at failed
    split at failed
    next other inner =>
      cases failed
      exact ⟨_, inner⟩
    · cases failed
    · exact ih failed

theorem span_error {rounds : Nat} (failed : Eval.span visit start rounds state = .error halt) :
    halt = .outOfFuel ∨ ∃ entry, visit entry = .error halt := by
  induction rounds generalizing state with
  | zero =>
    cases failed
    exact .inl rfl
  | succ rounds ih =>
    unfold Eval.span at failed
    split at failed
    next other inner =>
      cases failed
      exact .inr ⟨_, inner⟩
    · dsimp only at failed
      split at failed
      · exact ih failed
      · cases failed
    · split at failed <;> cases failed

end Errors

/-- A node has no errors of its own but the rounds of a span. -/
theorem node_error {setting : Setting} {visit : Nat → State → Result} {id : Nat} {node : Node} {state : State}
    {halt : Halt} (failed : Eval.node setting visit id node state = .error halt) :
    halt = .outOfFuel ∨ ∃ child ∈ node.children, ∃ entry, visit child entry = .error halt := by
  cases node with
  | literal | checker => cases failed
  | sequence left right =>
    simp only [Eval.node, Eval.sequence] at failed
    split at failed
    next other inner =>
      cases failed
      exact .inr ⟨left, List.mem_cons_self, _, inner⟩
    · cases failed
    · split at failed <;> cases failed
      next inner => exact .inr ⟨right, List.mem_cons_of_mem _ List.mem_cons_self, _, inner⟩
  | choice left right =>
    simp only [Eval.node, Eval.choice] at failed
    split at failed
    next other inner =>
      cases failed
      exact .inr ⟨left, List.mem_cons_self, _, inner⟩
    · cases failed
    · exact .inr ⟨right, List.mem_cons_of_mem _ List.mem_cons_self, _, failed⟩
  | negate inner =>
    simp only [Eval.node, Eval.negate] at failed
    split at failed
    next other call =>
      cases failed
      exact .inr ⟨inner, List.mem_cons_self, _, call⟩
    · cases failed
    · split at failed <;> cases failed
  | optional inner =>
    simp only [Eval.node, Eval.optional] at failed
    split at failed
    next other call =>
      cases failed
      exact .inr ⟨inner, List.mem_cons_self, _, call⟩
    · cases failed
    · split at failed <;> cases failed
  | times inner count => exact .inr ⟨inner, List.mem_cons_self, times_error failed⟩
  | span inner => exact (span_error failed).imp_right fun call => ⟨inner, List.mem_cons_self, call⟩
  | capture inner slot =>
    simp only [Eval.node, Eval.capture] at failed
    split at failed <;> cases failed
    next call => exact .inr ⟨inner, List.mem_cons_self, _, call⟩
  | rule name target => exact .inr ⟨target, List.mem_cons_self, _, failed⟩

theorem eval_error {setting : Setting} {fuel id : Nat} {state : State} {halt : Halt}
    (known : id < setting.grammar.size) (failed : eval setting fuel id state = .error halt) :
    halt = .outOfFuel := by
  induction fuel generalizing id state with
  | zero =>
    cases failed
    rfl
  | succ fuel ih =>
    have found : setting.grammar.node? id = some setting.grammar.nodes[id] := Array.getElem?_eq_getElem known
    simp only [eval, Eval.step, found] at failed
    split at failed
    · cases failed
    · split at failed
      · cases failed
      · split at failed
        next other inner =>
          cases failed
          rcases node_error inner with short | ⟨child, member, entry, call⟩
          · exact short
          · exact ih (child_known found child member) call
        · cases failed

theorem runWith_iff {grammar : Grammar} {limits : Limits} {id : Nat} {source : Source} {trace : Option Trace}
    {run : Run} : grammar.runWith limits id source trace = .ok run ↔ ∃ height result after,
      run = ⟨grammar, source, id, result, after⟩ ∧ Evaluates ⟨grammar, source.scalars, limits⟩ height
        (.visit id) (State.initial grammar source.position trace) result after := by
  constructor
  · intro ran
    simp only [Grammar.runWith] at ran
    split at ran
    · cases ran
    next answer =>
      cases ran
      exact ⟨_, _, _, rfl, evaluates_of_eval answer⟩
  · rintro ⟨_, _, _, rfl, evaluation⟩
    exact runWith_of_evaluate (evaluation.evaluate (sound_initial _ source.position_le trace))

end Peg.Proofs
