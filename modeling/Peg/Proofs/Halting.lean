import Mathlib.Data.Fintype.Card
import Mathlib.Data.Fintype.EquivFin
import Mathlib.Logic.Relation
import Peg.Proofs.Activity
import Peg.Proofs.DepthBound
import Peg.Proofs.Emission

/-! When an evaluation comes to an end, and after how much work. A limit ends every evaluation, whatever
circles the rules run in. Without limits an evaluation ends that has no circle before it, for only a
rule refers to a node that does not stand before it. -/

namespace Peg

/-- The node is a rule that leads back to itself. -/
def Grammar.Circular (grammar : Grammar) (id : Nat) : Prop :=
  (∃ name target, grammar.node? id = some (.rule name target)) ∧ Relation.TransGen grammar.Refers id id

namespace Proofs
open Relation

section Circles
variable {grammar : Grammar} {id first last : Nat}

theorem refers_known (refers : grammar.Refers first last) : last < grammar.size := by
  obtain ⟨node, found, member⟩ := refers
  exact child_known found last member

theorem backwards_or_rule (path : TransGen grammar.Refers first last) : last < first ∨
    ∃ rule, ReflTransGen grammar.Refers first rule ∧
      (∃ name target, grammar.node? rule = some (.rule name target)) ∧ TransGen grammar.Refers rule last := by
  induction path using TransGen.head_induction_on with
  | @single first edge =>
    obtain ⟨node, found, member⟩ := edge
    cases node with
    | rule name target => exact .inr ⟨first, .refl, ⟨name, target, found⟩, .single ⟨_, found, member⟩⟩
    | _ => exact .inl ((grammar.fits first _ found last member).2 rfl)
  | @head first middle edge path ih =>
    rcases ih with earlier | ⟨rule, reached, isRule, rest⟩
    · obtain ⟨node, found, member⟩ := edge
      cases node with
      | rule name target =>
        exact .inr ⟨first, .refl, ⟨name, target, found⟩, .head ⟨_, found, member⟩ path⟩
      | _ => exact .inl (Nat.lt_trans earlier ((grammar.fits first _ found middle member).2 rfl))
    · exact .inr ⟨rule, .head edge reached, isRule, rest⟩

theorem no_circle (free : ∀ rule, ReflTransGen grammar.Refers id rule → ¬ grammar.Circular rule)
    (reached : ReflTransGen grammar.Refers id first) : ¬ TransGen grammar.Refers first first := by
  intro circle
  rcases backwards_or_rule circle with backwards | ⟨rule, onCircle, isRule, rest⟩
  · exact Nat.lt_irrefl _ backwards
  · exact free rule (reached.trans onCircle) ⟨isRule, rest.trans_left onCircle⟩

abbrev Reached (grammar : Grammar) (id : Nat) :=
  { place : Fin grammar.size // ReflTransGen grammar.Refers id place }

/-- The nodes that are reached are finitely many, so without a circle there are lowest ones among them. -/
theorem wellFounded_reached (free : ∀ rule, ReflTransGen grammar.Refers id rule → ¬ grammar.Circular rule) :
    WellFounded fun below above : Reached grammar id => TransGen grammar.Refers above.val below.val := by
  have : IsTrans (Reached grammar id) fun below above => TransGen grammar.Refers above.val below.val :=
    ⟨fun _ _ _ lower upper => upper.trans lower⟩
  have : Std.Irrefl fun below above : Reached grammar id => TransGen grammar.Refers above.val below.val :=
    ⟨fun place => no_circle free place.property⟩
  exact Finite.wellFounded_of_trans_of_irrefl _

end Circles

section Unlimited
variable {grammar : Grammar} {scalars : Array Char} {id : Nat}

def Halts (setting : Setting) (height id : Nat) : Prop :=
  ∀ state, Sound setting state → ∃ result after, Evaluates setting height (.visit id) state result after

theorem Halts.mono {setting : Setting} {height more : Nat} (halts : Halts setting height id)
    (most : height ≤ more) : Halts setting more id := by
  intro state sound
  obtain ⟨result, after, evaluation⟩ := halts state sound
  exact ⟨result, after, evaluation.mono most⟩

theorem common_height {setting : Setting} {children : List Nat}
    (halts : ∀ child ∈ children, ∃ height, Halts setting height child) :
    ∃ height, ∀ child ∈ children, Halts setting height child := by
  induction children with
  | nil => exact ⟨0, nofun⟩
  | cons child rest ih =>
    obtain ⟨⟨height, first⟩, others⟩ := List.forall_mem_cons.mp halts
    obtain ⟨height', rest⟩ := ih others
    refine ⟨max height height', List.forall_mem_cons.mpr ⟨first.mono (Nat.le_max_left _ _), ?_⟩⟩
    intro other member
    exact (rest other member).mono (Nat.le_max_right _ _)

theorem Halts.entered {setting : Setting} {height : Nat} {node : Node}
    (unlimited : ∀ steps depth, setting.limits.exceeded steps depth = none)
    (found : setting.grammar.node? id = some node)
    (halts : ∀ child ∈ node.children, Halts setting height child) : Halts setting (height + 1) id := by
  intro state sound
  cases aborted : state.aborted with
  | true => exact ⟨_, _, .halted aborted⟩
  | false =>
    have returning : Returning setting height node.children fun _ => True :=
      ⟨fun child member state sound _ => halts child member state sound, fun _ _ _ => trivial, fun _ _ => trivial⟩
    have entered : Sound setting (state.enter id).descend := ⟨sound.inside, sound.explained⟩
    obtain ⟨result, after, parts⟩ := returning.parts id entered trivial
    exact ⟨_, _, .entered aborted (unlimited _ _) found parts⟩

theorem halts_before_circle (known : id < grammar.size)
    (free : ∀ rule, ReflTransGen grammar.Refers id rule → ¬ grammar.Circular rule) :
    ∃ height, Halts ⟨grammar, scalars, .unlimited⟩ height id := by
  have below : ∀ place : Reached grammar id, ∃ height, Halts ⟨grammar, scalars, .unlimited⟩ height place.val := by
    intro place
    induction place using (wellFounded_reached free).induction with
    | _ place ih =>
      obtain ⟨place, reached⟩ := place
      have found : grammar.node? place = some grammar.nodes[place] := Array.getElem?_eq_getElem place.isLt
      have children : ∀ child ∈ grammar.nodes[place].children,
          ∃ height, Halts ⟨grammar, scalars, .unlimited⟩ height child := by
        intro child member
        have edge : grammar.Refers place child := ⟨_, found, member⟩
        exact ih ⟨⟨child, refers_known edge⟩, reached.tail edge⟩ (.single edge)
      obtain ⟨height, halts⟩ := common_height children
      exact ⟨height + 1, .entered (fun _ _ => rfl) found halts⟩
  exact below ⟨⟨id, known⟩, .refl⟩

theorem not_circular_of_compile {expression : Expression} (compiled : expression.compile = .ok grammar) :
    ∀ rule, ¬ grammar.Circular rule := by
  rintro rule ⟨⟨name, target, found⟩, _⟩
  rw [Grammar.node?, nodes_of_compile compiled, List.getElem?_toArray] at found
  cases isRule_nodes expression 0 _ (List.mem_of_getElem? found)

end Unlimited

section Work
variable {setting : Setting} {nodes : List Nat} {low : Nat} {state after : State} {steps : List Step}

/-- No attempt is made once a run has made one more than the limit allows. -/
def WithinSteps (limits : Limits) (state : State) : Prop :=
  state.steps ≤ limits.maxSteps + 1 ∧ (state.aborted = false → state.steps ≤ limits.maxSteps)

theorem Activity.within_steps (activity : Activity setting nodes low state steps after)
    (limited : 0 < setting.limits.maxSteps) (within : WithinSteps setting.limits state) :
    WithinSteps setting.limits after := by
  induction activity with
  | quiet _ => exact within
  | append _ _ before later => exact later (before within)
  | struck _ _ _ running _ => exact ⟨Nat.succ_le_succ (within.2 running), nofun⟩
  | @visited _ _ state _ _ _ _ middle _ after _ _ _ running clear _ _ _ concludes ih =>
    have clear : state.steps + 1 ≤ setting.limits.maxSteps := by
      have offends := Limits.exceeded_eq_none_iff.mp clear
      unfold Limits.Offends at offends
      omega
    obtain ⟨most, alive⟩ := ih ⟨Nat.le_succ_of_le clear, fun _ => clear⟩
    obtain ⟨_, count, _, aborted⟩ := concludes.alike
    exact ⟨count ▸ most, fun running => count ▸ alive (aborted ▸ running)⟩

theorem Calls.depth_le {task : Task} {callee : Nat} {entry : State}
    (called : Calls setting task state callee entry) (sound : Sound setting state)
    (limited : 0 < setting.limits.maxDepth) (shallow : state.depth ≤ setting.limits.maxDepth) :
    entry.depth ≤ setting.limits.maxDepth := by
  induction called with
  | self => exact shallow
  | @entered _ _ state _ _ _ within _ _ ih =>
    have below : state.depth + 1 ≤ setting.limits.maxDepth := by
      have offends := Limits.exceeded_eq_none_iff.mp within
      unfold Limits.Offends at offends
      omega
    exact ih ⟨sound.inside, sound.explained⟩ below
  | sequence_right first _ ih | times_next first _ ih | span_next first _ _ ih =>
    obtain ⟨_, evaluation⟩ := first.evaluates
    exact ih (evaluation.sound sound) ((evaluation.rollback sound).depth ▸ shallow)
  | choice_right first _ ih =>
    obtain ⟨_, evaluation⟩ := first.evaluates
    exact ih ⟨sound.inside, (evaluation.sound sound).explained⟩ ((evaluation.rollback sound).depth ▸ shallow)
  | sequence_left _ ih | choice_left _ ih | negate _ ih | optional _ ih | times _ ih
  | times_first _ ih | span _ ih | span_first _ ih | capture _ ih | rule _ ih => exact ih sound shallow

end Work

/-- Under a limit every node returns, after no more attempts than one beyond the limit and never below the
greatest depth. Without limits a node returns from which no rule is reached that leads back to itself,
and so does every node of a grammar that an expression is compiled into. -/
theorem evaluation_halts {grammar : Grammar} {id : Nat} (known : id < grammar.size) (source : Source)
    (trace : Option Trace) :
    (∀ limits : Limits, 0 < limits.maxDepth ∨ 0 < limits.maxSteps → ∃ run steps,
      grammar.runWith limits id source trace = .ok run ∧
      run.final.trace = trace.map (·.append steps) ∧ run.final.steps = steps.length ∧
      (0 < limits.maxSteps → steps.length ≤ limits.maxSteps + 1) ∧
      (0 < limits.maxDepth → ∀ callee entry, Calls ⟨grammar, source.scalars, limits⟩ (.visit id)
        (State.initial grammar source.position trace) callee entry → entry.depth ≤ limits.maxDepth)) ∧
    ((∀ rule, ReflTransGen grammar.Refers id rule → ¬ grammar.Circular rule) →
      ∃ run, grammar.runWith .unlimited id source trace = .ok run) ∧
    ∀ expression : Expression, expression.compile = .ok grammar →
      ∃ run, grammar.runWith .unlimited id source trace = .ok run := by
  have halts : (∀ rule, ReflTransGen grammar.Refers id rule → ¬ grammar.Circular rule) →
      ∃ run, grammar.runWith .unlimited id source trace = .ok run := by
    intro free
    obtain ⟨height, halts⟩ := halts_before_circle known free
    obtain ⟨result, after, evaluation⟩ := halts _ (sound_initial _ source.position_le trace)
    exact ⟨_, runWith_iff.mpr ⟨height, result, after, rfl, evaluation⟩⟩
  refine ⟨?_, halts, fun expression compiled => halts fun rule _ => not_circular_of_compile compiled rule⟩
  intro limits limited
  let setting : Setting := ⟨grammar, source.scalars, limits⟩
  have sound : Sound setting (State.initial grammar source.position trace) :=
    sound_initial setting source.position_le trace
  obtain ⟨result, after, answer⟩ := evaluate_returns limited known sound
  have evaluation := evaluates_of_eval answer
  obtain ⟨steps, activity⟩ := evaluation.acts sound (Nat.le_refl _)
  have count : after.steps = steps.length := activity.logged.count.trans (Nat.zero_add _)
  refine ⟨_, steps, runWith_of_evaluate answer, activity.logged.trace, count, ?_, ?_⟩
  · intro limited
    exact count ▸ (activity.within_steps limited ⟨Nat.zero_le _, fun _ => Nat.zero_le _⟩).1
  · intro limited callee entry called
    exact called.depth_le sound limited (Nat.zero_le _)

/-- The sums that begin with themselves are left after one attempt too many. A plus sign alone needs no
limit, and neither does a repetition. -/
theorem left_recursion_halts_at_limit :
    sums.root < sums.size ∧ (∃ run steps, sums.runWith ⟨0, 5⟩ sums.root (.ofString "+") (some {}) = .ok run ∧
      run.final.trace = some (Trace.append {} steps) ∧ steps.length ≤ 6) ∧
    (∀ rule, ReflTransGen sums.Refers 1 rule → ¬ sums.Circular rule) ∧
    (∃ run, sums.runWith .unlimited 1 (.ofString "+") none = .ok run) ∧
    ∃ grammar run, (Expression.modified (.literal "") .oneOrMore).compile = .ok grammar ∧
      grammar.runWith .unlimited grammar.root (.ofString "ab") none = .ok run := by
  have known : sums.root < sums.size := by decide
  obtain ⟨run, steps, ran, trace, _, within, _⟩ :=
    (evaluation_halts known (.ofString "+") (some {})).1 ⟨0, 5⟩ (.inr (Nat.zero_lt_succ 4))
  have free : ∀ rule, ReflTransGen sums.Refers 1 rule → ¬ sums.Circular rule := by
    intro rule reached circular
    have plus : sums.node? 1 = some (.literal "+" .sensitive) := rfl
    cases reached using ReflTransGen.head_induction_on with
    | refl =>
      obtain ⟨⟨name, target, found⟩, _⟩ := circular
      cases plus.symm.trans found
    | head edge =>
      obtain ⟨node, found, member⟩ := edge
      cases plus.symm.trans found
      cases member
  obtain ⟨grammar, compiled, _⟩ :=
    @compile_eq (.modified (.literal "") .oneOrMore) (by decide) trivial
  obtain ⟨loop, looped⟩ := (evaluation_halts grammar.root_lt (.ofString "ab") none).2.2 _ compiled
  exact ⟨known, ⟨run, steps, ran, trace, within (Nat.zero_lt_succ 4)⟩, free,
    (evaluation_halts (by decide) (.ofString "+") none).2.1 free, grammar, loop, compiled, looped⟩

end Proofs
end Peg
