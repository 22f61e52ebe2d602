import Peg.Proofs.Activity
import Peg.Proofs.DepthBound
import Peg.Proofs.Simulation

/-! The log of a run is whole, well nested and true. Every step but the first has its parent among the
steps before it, every step tells how its evaluation ended, and what a step tells of a run that was not
aborted can be seen again by evaluating its node alone. -/

namespace Peg.Proofs

/-- The step at an index was entered while another one was open, one level above it, whose node is made of
the node of this step. So no step in between is on a smaller level than this one. -/
def HasParent (grammar : Grammar) (steps : List Step) (index : Nat) (step : Step) : Prop :=
  ∃ outer parent, outer < index ∧ steps[outer]? = some parent ∧ parent.depth + 1 = step.depth ∧
    Encloses steps outer index ∧ grammar.Refers parent.node step.node

section Parents
variable {grammar : Grammar} {first second : List Step} {index : Nat} {step : Step}

theorem HasParent.append_left (parented : HasParent grammar first index step) (inside : index < first.length) :
    HasParent grammar (first ++ second) index step := by
  obtain ⟨outer, parent, earlier, found, above, encloses, refers⟩ := parented
  rw [← List.getElem?_append_left (Nat.lt_trans earlier inside)] at found
  exact ⟨outer, parent, earlier, found, above, (encloses_append_left inside).mpr encloses, refers⟩

theorem HasParent.append_right (parented : HasParent grammar second index step) :
    HasParent grammar (first ++ second) (first.length + index) step := by
  obtain ⟨outer, parent, earlier, found, above, encloses, refers⟩ := parented
  refine ⟨first.length + outer, parent, Nat.add_lt_add_left earlier _, ?_, above,
    encloses_append_right.mpr encloses, refers⟩
  rwa [List.getElem?_append_right (Nat.le_add_right _ _), Nat.add_sub_cancel_left]

theorem hasParent_cons {parent : Step} (above : parent.depth + 1 = step.depth)
    (deep : ∀ other ∈ second, parent.depth < other.depth) (refers : grammar.Refers parent.node step.node) :
    HasParent grammar (parent :: second) (index + 1) step :=
  ⟨0, parent, Nat.succ_pos _, rfl, above, encloses_head deep, refers⟩

end Parents

section Nesting
variable {setting : Setting} {nodes : List Nat} {low : Nat} {state after : State} {steps : List Step}

theorem Activity.nested (activity : Activity setting nodes low state steps after) (index : Nat) (step : Step)
    (found : steps[index]? = some step) :
    (step.depth = state.depth ∧ step.node ∈ nodes) ∨ HasParent setting.grammar steps index step := by
  induction activity generalizing index with
  | quiet _ => cases found
  | @append _ _ _ first _ _ _ before _ ih ih' =>
    rcases Nat.lt_or_ge index first.length with earlier | later
    · rw [List.getElem?_append_left earlier] at found
      exact (ih index found).imp_right (·.append_left earlier)
    · obtain ⟨index, rfl⟩ := Nat.exists_eq_add_of_le later
      rw [List.getElem?_append_right later, Nat.add_sub_cancel_left] at found
      rw [← before.logged.depth]
      exact (ih' index found).imp_right (·.append_right)
  | struck member _ _ _ _ =>
    obtain ⟨rfl, rfl⟩ : index = 0 ∧ _ = step := by simpa [List.getElem?_singleton] using found
    exact .inl ⟨rfl, member⟩
  | visited member _ _ _ _ known _ parts _ ih =>
    cases index with
    | zero =>
      cases found
      exact .inl ⟨rfl, member⟩
    | succ index =>
      right
      rcases ih index found with ⟨level, child⟩ | parented
      · exact hasParent_cons level.symm parts.logged.deep ⟨_, known, child⟩
      · rw [Nat.add_comm, ← List.singleton_append]
        exact parented.append_right

end Nesting

/-- The step is completed, by a match within a text of this size or by a failure. -/
def Settled (size : Nat) (step : Step) : Prop :=
  (∃ stop, step.verdict = .matched stop ∧ step.position ≤ stop ∧ stop ≤ size) ∨
    ∃ kind, step.verdict = .failed kind

section Attempts
variable {grammar : Grammar} {source : Source} {limits : Limits} {step : Step} {height : Nat} {state after : State}
  {result : Option Span}

theorem Attempt.settled {setting : Setting} (attempt : Attempt setting step height state result after) :
    Settled setting.scalars.size step := by
  cases result with
  | some span =>
    obtain ⟨_, forward, inside⟩ := attempt.matched
    exact .inl ⟨span.stop, attempt.verdict, forward, inside⟩
  | none =>
    obtain ⟨_, failure, explained⟩ := (attempt.evaluation.rollback attempt.sound).failed rfl
    have verdict := attempt.verdict
    rw [explained] at verdict
    exact .inr ⟨failure.kind, verdict⟩

end Attempts

end Peg.Proofs
