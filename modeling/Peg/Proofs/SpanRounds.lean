import Mathlib.Data.Fintype.Card
import Mathlib.Logic.Relation
import Peg.Matching.Repetitions
import Peg.Proofs.Drafting
import Peg.Proofs.Search
import Peg.Proofs.Simulation

/-! The repetitions of a span, asked for one by one, are those that a match of the span is made of. Rules that
stand for the span are looked through, however many there are: a chain of rules that leads anywhere has
no node twice. -/

namespace Peg

namespace Grammar

/-- A rule is a name for its target. -/
def Names (grammar : Grammar) (id target : Nat) : Prop :=
  ∃ name, grammar.node? id = some (.rule name target)

end Grammar

/-- Regions that follow on each other from `start` to `stop`, none of them empty. -/
def Span.Consecutive (start stop : Nat) : List Span → Prop
  | [] => start = stop
  | span :: rest => span.start = start ∧ start < span.stop ∧ Consecutive span.stop stop rest

namespace Proofs
open Relation

/-- So many rules lead from a node to a span of `inner`. -/
inductive SpanBehind (grammar : Grammar) (inner : Nat) : Nat → Nat → Prop where
  | span {id} (found : grammar.node? id = some (.span inner)) : SpanBehind grammar inner 0 id
  | rule {rules id name target} (found : grammar.node? id = some (.rule name target))
      (rest : SpanBehind grammar inner rules target) : SpanBehind grammar inner (rules + 1) id

section Rules
variable {grammar : Grammar} {inner inner' rules rules' id : Nat}

theorem SpanBehind.unique (behind : SpanBehind grammar inner rules id)
    (again : SpanBehind grammar inner' rules' id) : rules = rules' ∧ inner = inner' := by
  induction behind generalizing rules' with
  | span found =>
    cases again with
    | span found' =>
      cases found.symm.trans found'
      exact ⟨rfl, rfl⟩
    | rule found' _ => cases found.symm.trans found'
  | rule found _ ih =>
    cases again with
    | span found' => cases found.symm.trans found'
    | rule found' rest =>
      cases found.symm.trans found'
      obtain ⟨rfl, same⟩ := ih rest
      exact ⟨rfl, same⟩

theorem SpanBehind.nearer (behind : SpanBehind grammar inner rules id) {fewer : Nat} (less : fewer ≤ rules) :
    ∃ place : Fin grammar.size, SpanBehind grammar inner fewer place := by
  induction behind with
  | span found =>
    obtain rfl := Nat.le_zero.mp less
    exact ⟨⟨_, (Array.getElem?_eq_some_iff.mp found).1⟩, .span found⟩
  | rule found rest ih =>
    rcases Nat.eq_or_lt_of_le less with rfl | less
    · exact ⟨⟨_, (Array.getElem?_eq_some_iff.mp found).1⟩, .rule found rest⟩
    · exact ih (Nat.le_of_lt_succ less)

/-- The nodes on the way to a span have different numbers of rules behind them, so they are different. -/
theorem SpanBehind.lt_size (behind : SpanBehind grammar inner rules id) : rules < grammar.size := by
  choose place leads using fun fewer : Fin (rules + 1) => behind.nearer (Nat.le_of_lt_succ fewer.isLt)
  have different : Function.Injective place := by
    intro one other same
    exact Fin.ext ((same ▸ leads one).unique (leads other)).1
  have card := Fintype.card_le_of_injective place different
  rwa [Fintype.card_fin, Fintype.card_fin] at card

theorem SpanBehind.spanInner? (behind : SpanBehind grammar inner rules id) {enough : Nat} (more : rules < enough) :
    grammar.spanInner? enough id = some inner := by
  induction behind generalizing enough with
  | span found =>
    obtain ⟨enough, rfl⟩ := Nat.exists_eq_succ_of_ne_zero (Nat.ne_zero_of_lt more)
    simp only [Grammar.spanInner?, found]
  | rule found _ ih =>
    obtain ⟨enough, rfl⟩ := Nat.exists_eq_succ_of_ne_zero (Nat.ne_zero_of_lt more)
    simp only [Grammar.spanInner?, found]
    exact ih (Nat.lt_of_succ_lt_succ more)

theorem spanBehind_of_spanInner? {enough : Nat} (found : grammar.spanInner? enough id = some inner) :
    ∃ rules, SpanBehind grammar inner rules id := by
  induction enough generalizing id with
  | zero => cases found
  | succ enough ih =>
    unfold Grammar.spanInner? at found
    split at found
    next here =>
      cases found
      exact ⟨0, .span here⟩
    next here =>
      obtain ⟨rules, rest⟩ := ih found
      exact ⟨rules + 1, .rule here rest⟩
    next => cases found

theorem spanInner?_eq_some_iff : grammar.spanInner? (grammar.size + 1) id = some inner ↔
    ∃ rules, SpanBehind grammar inner rules id := by
  constructor
  · exact spanBehind_of_spanInner?
  · rintro ⟨rules, behind⟩
    exact behind.spanInner? (Nat.lt_succ_of_lt behind.lt_size)

theorem names_span_iff : (∃ last, ReflTransGen grammar.Names id last ∧ grammar.node? last = some (.span inner)) ↔
    ∃ rules, SpanBehind grammar inner rules id := by
  constructor
  · rintro ⟨last, path, found⟩
    induction path using ReflTransGen.head_induction_on with
    | refl => exact ⟨0, .span found⟩
    | head edge _ ih =>
      obtain ⟨name, here⟩ := edge
      obtain ⟨rules, rest⟩ := ih
      exact ⟨rules + 1, .rule here rest⟩
  · rintro ⟨rules, behind⟩
    induction behind with
    | span found => exact ⟨_, .refl, found⟩
    | rule found _ ih =>
      obtain ⟨last, path, ends⟩ := ih
      exact ⟨last, .head ⟨_, found⟩ path, ends⟩

theorem repetitions_eq_ok_iff {limits : Limits} {source : Source} {trace : Option Trace} {repetitions : Repetitions} :
    grammar.repetitions limits id source trace = .ok repetitions ↔ ∃ inner rules, SpanBehind grammar inner rules id ∧
      repetitions = ⟨⟨grammar, source.scalars, limits⟩, source, inner, State.initial grammar source.position trace,
        false⟩ := by
  unfold Grammar.repetitions
  constructor
  · intro asked
    split at asked
    next inner found =>
      cases asked
      obtain ⟨rules, behind⟩ := spanInner?_eq_some_iff.mp found
      exact ⟨inner, rules, behind, rfl⟩
    next => cases asked
  · rintro ⟨inner, rules, behind, rfl⟩
    rw [spanInner?_eq_some_iff.mpr ⟨rules, behind⟩]

end Rules

/-- The twin stands at the same position with the same failure. -/
structure Abreast (state twin : State) : Prop where
  position : twin.position = state.position
  aborted : twin.aborted = state.aborted
  failure : twin.failure = state.failure

theorem simulation_abreast (grammar : Grammar) (scalars : Array Char) :
    Simulation ⟨grammar, scalars, .unlimited⟩ ⟨grammar, scalars, .unlimited⟩ Abreast where
  node := id
  scalars := rfl
  position abreast := abreast.position
  aborted abreast := abreast.aborted
  within _ _ := rfl
  rewind _ abreast := ⟨rfl, abreast.aborted, abreast.failure⟩
  fail kind node abreast :=
    ⟨abreast.position, abreast.aborted, congrArg (some ∘ Failure.mk kind node) abreast.position⟩
  keep _ _ abreast := ⟨abreast.position, abreast.aborted, abreast.failure⟩
  enter _ abreast := ⟨abreast.position, abreast.aborted, abreast.failure⟩
  leave _ _ _ abreast := ⟨abreast.position, abreast.aborted, abreast.failure⟩
  descend abreast := ⟨abreast.position, abreast.aborted, abreast.failure⟩
  ascend abreast := ⟨abreast.position, abreast.aborted, abreast.failure⟩

section Rounds
variable {grammar : Grammar} {source : Source} {height id inner rules start : Nat} {state twin after : State}
  {result : Option Span}

theorem Abreast.sound {setting : Setting} (abreast : Abreast state twin) (sound : Sound setting state) :
    Sound setting twin := by
  constructor
  · rw [abreast.position]
    exact sound.inside
  · rw [abreast.aborted, abreast.failure]
    exact sound.explained

theorem SpanBehind.loop (behind : SpanBehind grammar inner rules id)
    (evaluation : Evaluates ⟨grammar, source.scalars, .unlimited⟩ height (.visit id) state result after)
    (running : state.aborted = false) : ∃ height entry ending,
      Evaluates ⟨grammar, source.scalars, .unlimited⟩ height (.span inner state.position) entry result ending ∧
        Abreast state entry ∧ Abreast ending after := by
  induction behind generalizing height state after with
  | span found =>
    cases evaluation with
    | halted aborted => cases aborted.symm.trans running
    | exceeded _ beyond => cases beyond
    | entered _ _ found' parts =>
      cases found.symm.trans found'
      cases parts with
      | span all => exact ⟨_, _, _, all, ⟨rfl, rfl, rfl⟩, ⟨rfl, rfl, rfl⟩⟩
  | rule found _ ih =>
    cases evaluation with
    | halted aborted => cases aborted.symm.trans running
    | exceeded _ beyond => cases beyond
    | entered _ _ found' parts =>
      cases found.symm.trans found'
      cases parts with
      | rule body =>
        obtain ⟨_, entry, ending, all, first, last⟩ := ih body running
        exact ⟨_, entry, ending, all, ⟨first.position, first.aborted, first.failure⟩,
          ⟨last.position, last.aborted, last.failure⟩⟩

theorem Abreast.next (abreast : Abreast state twin) (sound : Sound ⟨grammar, source.scalars, .unlimited⟩ state)
    (evaluation : Evaluates ⟨grammar, source.scalars, .unlimited⟩ height (.visit inner) state result after)
    (running : after.aborted = false) : ∃ ending, Abreast after ending ∧
      Setting.evaluate ⟨grammar, source.scalars, .unlimited⟩ inner twin = .ok (result, ending) := by
  obtain ⟨ending, again, level⟩ := evaluation.matched (simulation_abreast grammar source.scalars) running abreast
  exact ⟨ending, level, again.evaluate (abreast.sound sound)⟩

section Answers
variable {setting : Setting} {middle : State}

theorem next_of_round {span : Span} (answer : setting.evaluate inner twin = .ok (some span, middle))
    (moved : twin.position < span.stop) : Repetitions.next ⟨setting, source, inner, twin, false⟩ =
      .ok (some (Match.ofSpan source none span), ⟨setting, source, inner, middle, false⟩) := by
  simp only [Repetitions.next, answer, Bool.false_eq_true, ite_false, if_pos moved]

theorem next_of_end (answer : setting.evaluate inner twin = .ok (result, middle))
    (ended : ∀ span, result = some span → ¬ twin.position < span.stop) :
    Repetitions.next ⟨setting, source, inner, twin, false⟩ = .ok (none, ⟨setting, source, inner, middle, true⟩) := by
  cases result with
  | none => simp only [Repetitions.next, answer, Bool.false_eq_true, ite_false, Repetitions.finish]
  | some span =>
    simp only [Repetitions.next, answer, Bool.false_eq_true, ite_false, if_neg (ended span rfl), Repetitions.finish]

theorem next_finished (repetitions : Repetitions) (finished : repetitions.finished = true) :
    repetitions.next = .ok (none, repetitions) := by
  rw [Repetitions.next, if_pos finished]

end Answers

theorem Evaluates.rounds
    (evaluation : Evaluates ⟨grammar, source.scalars, .unlimited⟩ height (.span inner start) state result after)
    (sound : Sound ⟨grammar, source.scalars, .unlimited⟩ state) (running : after.aborted = false)
    (abreast : Abreast state twin) : ∃ spans ending,
      Exhausts Repetitions.next ⟨⟨grammar, source.scalars, .unlimited⟩, source, inner, twin, false⟩
        (spans.map (Match.ofSpan source none))
        ⟨⟨grammar, source.scalars, .unlimited⟩, source, inner, ending, true⟩ ∧
      Span.Consecutive state.position after.position spans ∧ Abreast after ending := by
  generalize taskEq : Task.span inner start = task at evaluation
  induction evaluation generalizing twin with
  | span_next first moved rest _ ih =>
    cases taskEq
    obtain ⟨middle, level, answer⟩ := abreast.next sound first (rest.was_running running)
    obtain ⟨spans, ending, others, consecutive, last⟩ := ih (first.sound sound) running level rfl
    obtain ⟨starts, _, _, ends⟩ := (first.rollback sound).matched _ rfl
    refine ⟨_ :: spans, ending, .found (next_of_round answer ?_) others, ⟨starts, moved, ends ▸ consecutive⟩, last⟩
    exact abreast.position.symm ▸ moved
  | span_still final still =>
    cases taskEq
    obtain ⟨ending, level, answer⟩ := abreast.next sound final running
    obtain ⟨_, forward, _, ends⟩ := (final.rollback sound).matched _ rfl
    have same : _ = _ := Nat.le_antisymm forward (Nat.le_of_not_lt still)
    refine ⟨[], ending, .ended (next_of_end answer ?_), same.trans ends.symm, level⟩
    rintro span ⟨⟩
    exact abreast.position.symm ▸ still
  | span_aborted _ aborted => cases aborted.symm.trans running
  | span_end failed _ =>
    cases taskEq
    obtain ⟨ending, level, answer⟩ := abreast.next sound failed running
    exact ⟨[], ending, .ended (next_of_end answer nofun), ((failed.rollback sound).failed rfl).1.symm, level⟩
  | _ => cases taskEq

end Rounds

theorem eq_nil_of_consecutive {start stop : Nat} {spans : List Span}
    (consecutive : Span.Consecutive start stop spans) : start ≤ stop ∧ (spans = [] ↔ stop = start) := by
  induction spans generalizing start with
  | nil =>
    obtain rfl : start = stop := consecutive
    exact ⟨Nat.le_refl _, fun _ => rfl, fun _ => rfl⟩
  | cons span rest ih =>
    obtain ⟨_, wide, others⟩ := consecutive
    have before := Nat.lt_of_lt_of_le wide (ih others).1
    refine ⟨Nat.le_of_lt before, nofun, fun same => ?_⟩
    exact absurd same (Nat.ne_of_gt before)

/-- Repetitions can be asked of a node if and only if rules lead from it to a span. Asked one by one, they
are what the match of the node is made of, in the same order and without a gap, and at the end they leave the
same position and failure behind. After that nothing changes any more. -/
theorem repetitions_make_up_span (grammar : Grammar) (id : Nat) (source : Source) (trace : Option Trace) :
    (∀ limits, (∃ repetitions, grammar.repetitions limits id source trace = .ok repetitions) ↔
      ∃ last inner, ReflTransGen grammar.Names id last ∧ grammar.node? last = some (.span inner)) ∧
    ∀ repetitions run before stop, grammar.repetitions .unlimited id source trace = .ok repetitions →
      grammar.runWith .unlimited id source before = .ok run → run.result = some ⟨source.position, stop⟩ →
      ∃ spans last, Exhausts Repetitions.next repetitions (spans.map (Match.ofSpan source none)) last ∧
        Span.Consecutive source.position stop spans ∧ (spans = [] ↔ stop = source.position) ∧
        last.rest.position = stop ∧ last.state.failure = run.final.failure ∧ last.next = .ok (none, last) := by
  constructor
  · intro limits
    constructor
    · rintro ⟨repetitions, asked⟩
      obtain ⟨inner, rules, behind, _⟩ := repetitions_eq_ok_iff.mp asked
      obtain ⟨last, path, found⟩ := names_span_iff.mpr ⟨rules, behind⟩
      exact ⟨last, inner, path, found⟩
    · rintro ⟨last, inner, path, found⟩
      obtain ⟨rules, behind⟩ := names_span_iff.mp ⟨last, path, found⟩
      exact ⟨_, repetitions_eq_ok_iff.mpr ⟨inner, rules, behind, rfl⟩⟩
  · intro repetitions run before stop asked ran matched
    obtain ⟨inner, rules, behind, rfl⟩ := repetitions_eq_ok_iff.mp asked
    obtain ⟨height, result, final, rfl, evaluation⟩ := runWith_iff.mp ran
    obtain rfl : result = some ⟨source.position, stop⟩ := matched
    have sound := sound_initial ⟨grammar, source.scalars, .unlimited⟩ source.position_le before
    have running : final.aborted = false := evaluation.stays_running (fun _ _ => rfl) rfl
    obtain ⟨_, _, inside, ends⟩ := (evaluation.rollback sound).matched _ rfl
    obtain ⟨_, entry, ending, loop, first, last⟩ := behind.loop evaluation rfl
    have abreast : Abreast entry (State.initial grammar source.position trace) :=
      ⟨first.position.symm, first.aborted.symm, first.failure.symm⟩
    obtain ⟨spans, final', exhausts, consecutive, level⟩ :=
      loop.rounds (first.sound sound) (last.aborted.symm.trans running) abreast
    rw [first.position, ← last.position, ends] at consecutive
    refine ⟨spans, _, exhausts, consecutive, (eq_nil_of_consecutive consecutive).2, ?_, ?_, next_finished _ rfl⟩
    · have position : final'.position = stop := level.position.trans (last.position.symm.trans ends)
      exact position ▸ Nat.min_eq_left (position ▸ inside)
    · exact level.failure.trans last.failure.symm

/-- The letters are a span behind two rules, the first of which refers to a later node. -/
theorem letters_make_up_span :
    let operations : List Draft.Operation := [.literal "a" .sensitive, .span 0, .declare "letters", .rule "row" 1,
      .define 2 3]
    let source := (Source.ofString "baab").seek 1
    ∃ grammar repetitions run spans last, (Draft.perform {} operations).seal 2 = .ok grammar ∧
      grammar.repetitions .unlimited 2 source none = .ok repetitions ∧
      grammar.runWith .unlimited 2 source (some {}) = .ok run ∧ run.result = some ⟨source.position, 3⟩ ∧
      Exhausts Repetitions.next repetitions (spans.map (Match.ofSpan source none)) last ∧
      Span.Consecutive 1 3 spans ∧ spans ≠ [] ∧ last.rest.position = 3 ∧
      last.state.failure = run.final.failure := by
  intro operations source
  have answers : ((Draft.perform {} operations).seal 2).toOption.any (fun grammar =>
      (grammar.repetitions .unlimited 2 source none).toOption.any fun _ =>
        (grammar.runWith .unlimited 2 source (some {})).toOption.any (·.result == some ⟨1, 3⟩)) = true := by
    decide +kernel
  obtain ⟨grammar, built, answers⟩ := ok_of_any answers
  obtain ⟨repetitions, asked, answers⟩ := ok_of_any answers
  obtain ⟨run, ran, matched⟩ := ok_of_any answers
  obtain ⟨spans, last, exhausts, consecutive, empty, position, failure, _⟩ :=
    (repetitions_make_up_span grammar 2 source none).2 repetitions run (some {}) 3 asked ran (eq_of_beq matched)
  exact ⟨grammar, repetitions, run, spans, last, built, asked, ran, eq_of_beq matched, exhausts, consecutive,
    mt empty.mp (by decide), position, failure⟩

end Proofs
end Peg
