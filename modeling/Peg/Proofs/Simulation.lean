import Peg.Proofs.Lockstep

/-! Evaluations side by side, over the same text from the same position: the lockstep without a distance. Only
what is not aborted is matched, so that the other side may do without limits. -/

namespace Peg.Proofs

/-- Related states stand at the same position of the same text, and stay related in whatever an evaluation
does to both of them. The other side has the same nodes, and no limit where the first has none. -/
structure Simulation (setting other : Setting) (related : State → State → Prop) : Prop where
  node : ∀ {id node}, setting.grammar.node? id = some node → other.grammar.node? id = some node
  scalars : other.scalars = setting.scalars
  position : ∀ {state twin}, related state twin → twin.position = state.position
  aborted : ∀ {state twin}, related state twin → twin.aborted = state.aborted
  within : ∀ {state twin}, related state twin →
    setting.limits.exceeded (state.steps + 1) state.depth = none →
    other.limits.exceeded (twin.steps + 1) twin.depth = none
  rewind : ∀ {state twin} position, related state twin →
    related (state.rewind position) (twin.rewind position)
  fail : ∀ {state twin} kind node, related state twin →
    related (state.fail kind node).2 (twin.fail kind node).2
  keep : ∀ {state twin} slot span, related state twin → related (state.keep slot span) (twin.keep slot span)
  enter : ∀ {state twin} node, related state twin → related (state.enter node) (twin.enter node)
  leave : ∀ {state twin} index index' result, related state twin →
    related (state.leave index result) (twin.leave index' result)
  descend : ∀ {state twin : State}, related state twin → related state.descend twin.descend
  ascend : ∀ {state twin : State}, related state twin → related state.ascend twin.ascend

def Matched (other : Setting) (related : State → State → Prop) (height : Nat) (task : Task) (twin : State)
    (result : Option Span) (after : State) : Prop :=
  ∃ ending, Evaluates other height task twin result ending ∧ related after ending

theorem Simulation.lockstep {setting other : Setting} {related : State → State → Prop}
    (simulation : Simulation setting other related) : Lockstep setting other 0 (fun _ => True) related where
  node _ := simulation.node
  child _ _ _ _ := trivial
  scalars _ := congrArg (·[_]?) simulation.scalars
  position := simulation.position
  aborted := simulation.aborted
  within := simulation.within
  rewind := simulation.rewind
  fail := simulation.fail
  keep span _ _ := simulation.keep _ span
  enter := simulation.enter
  leave result _ alike := (shift_zero result).symm ▸ simulation.leave _ _ result alike
  descend := simulation.descend
  ascend := simulation.ascend

theorem Evaluates.matched {setting other : Setting} {related : State → State → Prop}
    (simulation : Simulation setting other related) {height id state result after}
    (evaluation : Evaluates setting height (.visit id) state result after) (running : after.aborted = false)
    {twin : State} (alike : related state twin) : Matched other related height (.visit id) twin result after := by
  obtain ⟨ending, again, alike'⟩ := evaluation.followed simulation.lockstep trivial alike (.inl running)
  exact ⟨ending, shift_zero result ▸ again, alike'⟩

end Peg.Proofs
