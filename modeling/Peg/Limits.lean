/-! Bounds on the work of a run. -/

namespace Peg

inductive Limit where
  | depth
  | steps
deriving Repr, DecidableEq

def Limit.name : Limit → String
  | .depth => "maximum depth"
  | .steps => "maximum steps"

/-- The deepest nesting and the largest number of node evaluations of one run; zero stands for no
bound. Every node on the path counts as a level, not only rules. -/
structure Limits where
  maxDepth : Nat := 1000
  maxSteps : Nat := 0
deriving Repr, DecidableEq

namespace Limits

def unlimited : Limits := ⟨0, 0⟩

/-- The bound that the evaluation with number `steps`, entered at `depth`, exceeds. The bound on
the number of evaluations is looked at first. -/
def exceeded (limits : Limits) (steps depth : Nat) : Option Limit :=
  if 0 < limits.maxSteps ∧ limits.maxSteps < steps then some .steps
  else if 0 < limits.maxDepth ∧ limits.maxDepth ≤ depth then some .depth
  else none

/-- The evaluation with this number, entered at this depth, is beyond one of the limits. -/
def Offends (limits : Limits) (number depth : Nat) : Prop :=
  (0 < limits.maxSteps ∧ limits.maxSteps < number) ∨ (0 < limits.maxDepth ∧ limits.maxDepth ≤ depth)

/-- The limit that such an evaluation is reported to exceed. -/
def offended (limits : Limits) (number : Nat) : Limit :=
  if 0 < limits.maxSteps ∧ limits.maxSteps < number then .steps else .depth

/-- Each of the looser limits is off, or the stricter one is on and no larger. -/
def Stricter (strict loose : Limits) : Prop :=
  (loose.maxDepth = 0 ∨ (0 < strict.maxDepth ∧ strict.maxDepth ≤ loose.maxDepth)) ∧
    (loose.maxSteps = 0 ∨ (0 < strict.maxSteps ∧ strict.maxSteps ≤ loose.maxSteps))

section Offences
variable {limits strict loose : Limits} {number depth : Nat}

theorem exceeded_eq_some_iff {limit : Limit} : limits.exceeded number depth = some limit ↔
    limits.Offends number depth ∧ limit = limits.offended number := by
  unfold exceeded Offends offended
  by_cases many : 0 < limits.maxSteps ∧ limits.maxSteps < number
  · simp [many, eq_comm]
  · by_cases deep : 0 < limits.maxDepth ∧ limits.maxDepth ≤ depth
    · simp only [many, deep, ite_true, ite_false, and_self, or_true, true_and, Option.some.injEq, eq_comm]
    · simp only [many, deep, ite_false, or_false, false_and, reduceCtorEq]

theorem exceeded_eq_none_iff : limits.exceeded number depth = none ↔ ¬ limits.Offends number depth := by
  simp only [Option.eq_none_iff_forall_ne_some, Ne, exceeded_eq_some_iff, not_and]
  exact ⟨fun never offends => never _ offends rfl, fun never limit offends => absurd offends never⟩

theorem Offends.stricter (offends : loose.Offends number depth) (stricter : strict.Stricter loose) :
    strict.Offends number depth := by
  unfold Offends at offends ⊢
  unfold Stricter at stricter
  omega

theorem stricter_refl (limits : Limits) : limits.Stricter limits := by
  unfold Stricter
  omega

end Offences

end Limits
end Peg
