import Peg.Proofs.Extension
import Peg.Proofs.SafeRun
import Peg.Proofs.View

/-! What may be written for a span: a span of it, a span of the same thing made optional, and the thing with a span
behind it, as a whole optional. These forms try the repeated node once more where the span has come to its end,
or once less. It makes no difference, because a node that is tried again from the same position does the same again
and overwrites what it wrote with the same: only the position decides what is written, and never what was
written before. -/

namespace Peg.Proofs

/-- The twin goes the same way as the state, from what is written in the end. What it has not written yet is there
from the beginning. -/
structure Again (last : View) (state twin : State) : Prop where
  position : twin.position = state.position
  aborted : twin.aborted = state.aborted
  failure : twin.failure = state.failure ∨ twin.failure = last.failure
  size : twin.captures.size = state.captures.size
  captures : ∀ slot : Nat, twin.captures[slot]? = state.captures[slot]? ∨ twin.captures[slot]? = last.captures[slot]?

section Repeated
variable {grammar : Grammar} {scalars : Array Char} {last before after : View} {state twin : State} {id : Nat}
  {matched : Bool}

theorem Again.keep (again : Again last state twin) (slot : Nat) (span : Span) :
    Again last (state.keep slot span) (twin.keep slot span) := by
  refine ⟨again.position, again.aborted, again.failure, ?_, ?_⟩
  · rw [State.keep, State.keep, Array.size_setIfInBounds, Array.size_setIfInBounds, again.size]
  · intro other
    simp only [State.keep, Array.getElem?_setIfInBounds, again.size]
    split
    · exact .inl rfl
    · exact again.captures other

theorem simulation_again (grammar : Grammar) (scalars : Array Char) (last : View) :
    Simulation ⟨grammar, scalars, .unlimited⟩ ⟨grammar, scalars, .unlimited⟩ (Again last) where
  node := id
  scalars := rfl
  position again := again.position
  aborted again := again.aborted
  within _ _ := rfl
  rewind _ again := ⟨rfl, again.aborted, again.failure, again.size, again.captures⟩
  fail kind node again := ⟨again.position, again.aborted,
    .inl (congrArg (some ∘ Failure.mk kind node) again.position), again.size, again.captures⟩
  keep slot span again := again.keep slot span
  enter _ again := ⟨again.position, again.aborted, again.failure, again.size, again.captures⟩
  leave _ _ _ again := ⟨again.position, again.aborted, again.failure, again.size, again.captures⟩
  descend again := ⟨again.position, again.aborted, again.failure, again.size, again.captures⟩
  ascend again := ⟨again.position, again.aborted, again.failure, again.size, again.captures⟩

theorem Again.view (again : Again last state twin) (ended : state.view = last) : twin.view = last := by
  subst ended
  have failure : twin.failure = state.failure := again.failure.elim id id
  have captures : twin.captures = state.captures :=
    Array.ext_getElem? fun slot => (again.captures slot).elim id id
  simp only [State.view, again.position, failure, captures]

/-- Tried again from the same position, a node leaves everything as it left it before. -/
theorem Takes.again (takes : Takes grammar scalars (.visit id) before matched after) :
    Takes grammar scalars (.visit id) (after.rewind before.position) matched after := by
  obtain ⟨_, state, _, ending, evaluation, underway, rfl, rfl, rfl⟩ := takes
  -- The twin begins with all that the first evaluation has left behind, but where that one began.
  let start : State := { state with failure := ending.failure, captures := ending.captures }
  have size : ending.captures.size = state.captures.size := evaluation.keeps (kept_slots _) rfl
  have again : Again ending.view state start := ⟨rfl, rfl, .inr rfl, size, fun _ => .inr rfl⟩
  obtain ⟨last, evaluation', again'⟩ :=
    evaluation.matched (simulation_again grammar scalars _) (evaluation.underway underway).running again
  have repeated := evaluation'.takes ⟨underway.running, underway.inside⟩
  rw [again'.view rfl] at repeated
  exact repeated

end Repeated

/-- The rounds of a span: they go on while the node matches and moves on. -/
inductive Rounds (grammar : Grammar) (scalars : Array Char) (inner : Nat) : View → View → Prop where
  | failed {before after} (last : Takes grammar scalars (.visit inner) before false after) :
      Rounds grammar scalars inner before after
  | still {before after} (last : Takes grammar scalars (.visit inner) before true after)
      (stays : ¬ before.position < after.position) : Rounds grammar scalars inner before after
  | next {before middle after} (first : Takes grammar scalars (.visit inner) before true middle)
      (moved : before.position < middle.position) (rest : Rounds grammar scalars inner middle after) :
      Rounds grammar scalars inner before after

section Rounds
variable {grammar : Grammar} {scalars : Array Char} {before after after' : View} {id inner start : Nat}
  {matched : Bool}

theorem Rounds.unique (rounds : Rounds grammar scalars inner before after)
    (others : Rounds grammar scalars inner before after') : after = after' := by
  induction rounds with
  | failed last =>
    cases others with
    | failed last' => exact (last.unique last').2
    | still first _ | next first _ _ => cases (last.unique first).1
  | still last stays =>
    cases others with
    | failed first => cases (last.unique first).1
    | still last' _ => exact (last.unique last').2
    | next first moved _ =>
      obtain ⟨_, rfl⟩ := last.unique first
      exact absurd moved stays
  | next first moved _ ih =>
    cases others with
    | failed first' => cases (first.unique first').1
    | still first' stays =>
      obtain ⟨_, rfl⟩ := first.unique first'
      exact absurd moved stays
    | next first' _ rest' =>
      obtain ⟨_, rfl⟩ := first.unique first'
      exact ih rest'

/-- A node that has matched without moving on would do the same once more. -/
theorem Takes.still (takes : Takes grammar scalars (.visit inner) before true after)
    (stays : ¬ before.position < after.position) : Rounds grammar scalars inner after after := by
  have same : after.position = before.position := Nat.le_antisymm (Nat.le_of_not_lt stays) takes.forward
  have again := takes.again
  rw [← same] at again
  exact .still again (Nat.lt_irrefl _)

theorem Rounds.again (rounds : Rounds grammar scalars inner before after) :
    Rounds grammar scalars inner after after := by
  induction rounds with
  | failed last =>
    have again := last.again
    rw [← last.back] at again
    exact .failed again
  | still last stays => exact last.still stays
  | next _ _ _ ih => exact ih

theorem Evaluates.round {height : Nat} {state ending : State} {result : Option Span}
    (evaluation : Evaluates ⟨grammar, scalars, .unlimited⟩ height (.span inner start) state result ending)
    (underway : Underway scalars state) :
    result.isSome = true ∧ Rounds grammar scalars inner state.view ending.view := by
  generalize taskEq : Task.span inner start = task at evaluation
  induction evaluation with
  | span_next first moved _ _ ih =>
    cases taskEq
    obtain ⟨found, rest⟩ := ih (first.underway underway) rfl
    have ends := first.moved underway.sound
    exact ⟨found, .next (first.takes underway) (Nat.lt_of_lt_of_eq moved ends.symm) rest⟩
  | span_still final still =>
    cases taskEq
    have ends := final.moved underway.sound
    exact ⟨rfl, .still (final.takes underway) (mt (Nat.lt_of_lt_of_eq · ends) still)⟩
  | span_aborted failed aborted => cases aborted.symm.trans (failed.underway underway).running
  | span_end failed _ =>
    cases taskEq
    exact ⟨rfl, .failed (failed.takes underway)⟩
  | _ => cases taskEq

theorem Rounds.takes (rounds : Rounds grammar scalars inner before after) (start : Nat) :
    Takes grammar scalars (.span inner start) before true after := by
  induction rounds with
  | failed last =>
    obtain ⟨_, _, _, failed, underway, rfl, rfl⟩ := last.failed
    exact (Evaluates.span_end failed (failed.underway underway).running).takes underway
  | still last stays =>
    obtain ⟨_, state, span, _, final, underway, rfl, rfl⟩ := last.found
    have stays : ¬ state.position < span.stop := final.moved underway.sound ▸ stays
    exact (Evaluates.span_still final stays).takes underway
  | next found moved _ ih =>
    obtain ⟨_, state, span, _, first, underway, rfl, rfl⟩ := found.found
    have moved : state.position < span.stop := first.moved underway.sound ▸ moved
    obtain ⟨_, _, _, first, rest, found, rfl⟩ := ih.behind trivial _ (first.underway underway).running rfl first
    exact found ▸ (Evaluates.span_next first moved rest).takes underway

theorem takes_span (found : grammar.node? id = some (.span inner)) :
    Takes grammar scalars (.visit id) before matched after ↔
      matched = true ∧ Rounds grammar scalars inner before after := by
  rw [takes_visit found]
  constructor
  · rintro ⟨_, _, _, _, evaluation, underway, rfl, rfl, rfl⟩
    cases evaluation with
    | span all => exact all.round underway
  · rintro ⟨rfl, rounds⟩
    obtain ⟨_, _, _, _, all, underway, rfl, found, rfl⟩ := rounds.takes before.position
    exact found ▸ (Evaluates.span all).takes underway

theorem takes_optional (found : grammar.node? id = some (.optional inner)) :
    Takes grammar scalars (.visit id) before matched after ↔
      matched = true ∧ ∃ tried, Takes grammar scalars (.visit inner) before tried after := by
  rw [takes_visit found]
  constructor
  · rintro ⟨_, state, _, _, evaluation, underway, rfl, rfl, rfl⟩
    cases evaluation with
    | optional found => exact ⟨rfl, true, found.takes underway⟩
    | optional_aborted failed aborted => cases aborted.symm.trans (failed.underway underway).running
    | @optional_empty _ _ _ _ after failed _ =>
      have takes := failed.takes underway
      have back : (after.rewind state.position).view = after.view := takes.settled
      exact ⟨rfl, false, back ▸ takes⟩
  · rintro ⟨rfl, tried, takes⟩
    cases tried with
    | false =>
      have back := takes.settled
      obtain ⟨_, _, _, failed, underway, rfl, rfl⟩ := takes.failed
      exact back ▸ (Evaluates.optional_empty failed (failed.underway underway).running).takes underway
    | true =>
      obtain ⟨_, _, _, _, found, underway, rfl, rfl⟩ := takes.found
      exact (Evaluates.optional found).takes underway

end Rounds

section Laws
variable {grammar : Grammar} {scalars : Array Char} {before after : View} {inner other : Nat}

theorem rounds_span (found : grammar.node? other = some (.span inner)) :
    Rounds grammar scalars other before after ↔ Rounds grammar scalars inner before after := by
  constructor
  · intro rounds
    induction rounds with
    | failed last => cases ((takes_span found).mp last).1
    | still last _ => exact ((takes_span found).mp last).2
    | next first _ _ ih =>
      -- The first round was a whole span, which has left nothing to do for the others.
      have ended := ((takes_span found).mp first).2
      exact ended.again.unique ih ▸ ended
  · intro rounds
    have whole := (takes_span found).mpr ⟨rfl, rounds⟩
    by_cases moved : before.position < after.position
    · exact .next whole moved (.still ((takes_span found).mpr ⟨rfl, rounds.again⟩) (Nat.lt_irrefl _))
    · exact .still whole moved

theorem rounds_optional (found : grammar.node? other = some (.optional inner)) :
    Rounds grammar scalars other before after ↔ Rounds grammar scalars inner before after := by
  constructor
  · intro rounds
    induction rounds with
    | failed last => cases ((takes_optional found).mp last).1
    | still last stays =>
      obtain ⟨_, tried, last⟩ := (takes_optional found).mp last
      cases tried with
      | false => exact .failed last
      | true => exact .still last stays
    | next first moved _ ih =>
      obtain ⟨_, tried, first⟩ := (takes_optional found).mp first
      cases tried with
      | false => exact absurd first.back (Nat.ne_of_gt moved)
      | true => exact .next first moved ih
  · intro rounds
    induction rounds with
    | failed last =>
      exact .still ((takes_optional found).mpr ⟨rfl, _, last⟩) (Nat.not_lt_of_le (Nat.le_of_eq last.back))
    | still last stays => exact .still ((takes_optional found).mpr ⟨rfl, _, last⟩) stays
    | next first moved _ ih => exact .next ((takes_optional found).mpr ⟨rfl, _, first⟩) moved ih

theorem takes_once {pair : Nat} (found : grammar.node? pair = some (.sequence inner other))
    (span : grammar.node? other = some (.span inner)) :
    (∃ tried, Takes grammar scalars (.visit pair) before tried after) ↔
      Rounds grammar scalars inner before after := by
  constructor
  · rintro ⟨tried, takes⟩
    rw [takes_visit found, takes_sequence] at takes
    obtain ⟨last, rfl, ⟨rfl, failed⟩ | ⟨middle, first, rest⟩⟩ := takes
    · exact failed.settled.symm ▸ .failed failed
    · obtain ⟨rfl, rounds⟩ := (takes_span span).mp rest
      by_cases moved : before.position < middle.position
      · exact .next first moved rounds
      -- A first match that stays where it is leaves to the span one round, which does the same again.
      · obtain rfl := (first.still moved).unique rounds
        exact .still first moved
  · intro rounds
    simp only [takes_visit found, takes_sequence, takes_span span]
    cases rounds with
    | failed last => exact ⟨false, after, last.settled.symm, .inl ⟨rfl, last⟩⟩
    | still last stays => exact ⟨true, after, rfl, .inr ⟨after, last, rfl, last.still stays⟩⟩
    | next first _ rest => exact ⟨true, after, rfl, .inr ⟨_, first, rfl, rest⟩⟩

theorem interchangeable_with_span {id star : Nat} (known : id < grammar.size)
    (found : grammar.node? star = some (.span inner))
    (same : ∀ {scalars before matched after}, Takes grammar scalars (.visit id) before matched after ↔
      matched = true ∧ Rounds grammar scalars inner before after) : grammar.Interchangeable id star :=
  interchangeable_of_takes known (Array.getElem?_eq_some_iff.mp found).1 (same.trans (takes_span found).symm)

end Laws

/-- Three other forms of a span stand for it, also where its node matches nothing or comes upon itself: a span of
the span, a span of the node made optional, and the node with a span of it behind, as a whole optional. -/
theorem span_forms_agree (grammar : Grammar) (inner star : Nat) (found : grammar.node? star = some (.span inner)) :
    (∀ id again, grammar.node? again = some (.span inner) → grammar.node? id = some (.span again) →
      grammar.Interchangeable id star) ∧
    (∀ id maybe, grammar.node? maybe = some (.optional inner) → grammar.node? id = some (.span maybe) →
      grammar.Interchangeable id star) ∧
    ∀ id once rest, grammar.node? rest = some (.span inner) → grammar.node? once = some (.sequence inner rest) →
      grammar.node? id = some (.optional once) → grammar.Interchangeable id star := by
  have known {id : Nat} {node : Node} (found : grammar.node? id = some node) : id < grammar.size :=
    (Array.getElem?_eq_some_iff.mp found).1
  refine ⟨?_, ?_, ?_⟩
  · intro id again nested outer
    apply interchangeable_with_span (known outer) found
    intro scalars before matched after
    rw [takes_span outer, rounds_span nested]
  · intro id maybe optional outer
    apply interchangeable_with_span (known outer) found
    intro scalars before matched after
    rw [takes_span outer, rounds_optional optional]
  · intro id once rest nested pair outer
    apply interchangeable_with_span (known outer) found
    intro scalars before matched after
    rw [takes_optional outer, takes_once pair nested]

/-- Letters that may be missing are repeated until one of them is. -/
theorem optional_letters_in_other_forms :
    let operations : List Draft.Operation := [.literal "a" .sensitive, .optional 0, .span 1, .span 2, .optional 1,
      .span 4, .sequence 1 2, .optional 6]
    ∃ grammar run, (Draft.perform {} operations).seal 2 = .ok grammar ∧ grammar.Interchangeable 3 2 ∧
      grammar.Interchangeable 5 2 ∧ grammar.Interchangeable 7 2 ∧
      grammar.runWith .unlimited 2 (.ofString "aab") none = .ok run ∧ run.result = some ⟨0, 2⟩ := by
  intro operations
  have answers : ((Draft.perform {} operations).seal 2).toOption.any (fun grammar =>
      (grammar.runWith .unlimited 2 (.ofString "aab") none).toOption.any (·.result == some ⟨0, 2⟩)) = true := by
    decide +kernel
  obtain ⟨grammar, built, answers⟩ := ok_of_any answers
  obtain ⟨run, ran, matched⟩ := ok_of_any answers
  obtain ⟨_, sealedAs⟩ := sealedAs_of_seal built
  have placed {id : Nat} {node : Node} (holds : (Draft.perform {} operations).Holds id node) :
    grammar.node? id = some node := node?_of_holds holds sealedAs
  have star : grammar.node? 2 = some (.span 1) := placed rfl
  obtain ⟨nested, optional, once⟩ := span_forms_agree grammar 1 2 star
  exact ⟨grammar, run, built, nested 3 2 star (placed rfl), optional 5 4 (placed rfl) (placed rfl),
    once 7 6 2 star (placed rfl) (placed rfl), ran, eq_of_beq matched⟩

end Peg.Proofs
