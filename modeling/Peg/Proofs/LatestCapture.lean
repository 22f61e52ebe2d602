import Peg.Matching.Outcome
import Peg.Proofs.Activity
import Peg.Proofs.Drafting
import Peg.Proofs.LastCompleted
import Peg.Proofs.Slice
import Peg.Proofs.Termination

/-! What the capture slots hold after a run. A match is kept as soon as its pattern is left, and nothing takes
it away again: not the failure of a pattern around it, and no negation. Captures of one name share a slot,
so what is found under a name is what is found in the slot of that name. -/

namespace Peg

/-- The span that a step stands for, if it is a matched step of a capture into this slot. -/
def Grammar.captured? (grammar : Grammar) (slot : Nat) (step : Step) : Option Span :=
  if (grammar.node? step.node).any (·.slot? == some slot) then
    step.stop?.map fun stop => ⟨step.position, stop⟩
  else none

theorem Node.slot_lt_of_lawful {node : Node} {slots slot : Nat} (lawful : node.Lawful slots)
    (kept : node.slot? = some slot) : slot < slots := by
  cases node with
  | capture inner own =>
    cases kept
    exact lawful
  | _ => cases kept

namespace Proofs

section Steps
variable {setting : Setting} {nodes : List Nat} {low id origin depth slot stop : Nat} {node : Node}
  {state middle after : State} {result : Option Span} {steps : List Step} {step : Step} {grammar : Grammar}

theorem captured?_of_slot (found : grammar.node? step.node = some node) (kept : node.slot? = some slot)
    (matched : step.verdict = .matched stop) : grammar.captured? slot step = some ⟨step.position, stop⟩ := by
  have own : (grammar.node? step.node).any (·.slot? == some slot) = true := by
    rw [found, Option.any_some, kept, beq_self_eq_true]
  rw [Grammar.captured?, if_pos own, Step.stop?, matched]
  rfl

theorem captured?_of_other (found : grammar.node? step.node = some node) (other : node.slot? ≠ some slot) :
    grammar.captured? slot step = none := by
  have foreign : ¬ (grammar.node? step.node).any (·.slot? == some slot) = true := by
    rwa [found, Option.any_some, beq_iff_eq]
  rw [Grammar.captured?, if_neg foreign]

theorem captured?_unmatched (unmatched : step.stop? = none) : grammar.captured? slot step = none := by
  rw [Grammar.captured?, unmatched]
  exact ite_self none

theorem verdict_of_captured {span : Span} (captured : grammar.captured? slot step = some span) :
    step.position = span.start ∧ step.verdict = .matched span.stop := by
  unfold Grammar.captured? Step.stop? at captured
  split at captured
  next =>
    cases verdict : step.verdict with
    | matched stop =>
      rw [verdict] at captured
      cases captured
      exact ⟨rfl, rfl⟩
    | pending | failed kind =>
      rw [verdict] at captured
      cases captured
  next => cases captured

theorem Attempt.captured {height : Nat} {span : Span} (attempt : Attempt setting step height state result after)
    (captured : grammar.captured? slot step = some span) :
    span.start ≤ span.stop ∧ span.stop ≤ setting.scalars.size := by
  obtain ⟨start, matched⟩ := verdict_of_captured captured
  have verdict := matched.symm.trans attempt.verdict
  cases result with
  | none => cases failure : after.failure <;> rw [failure] at verdict <;> cases verdict
  | some own =>
    obtain ⟨_, forward, inside⟩ := attempt.matched
    have stop : span.stop = own.stop := Verdict.matched.inj verdict
    rw [← start, stop]
    exact ⟨forward, inside⟩

theorem stop?_of_failed (failure : Option Failure) :
    Step.stop? ⟨id, origin, depth, .ofResult none failure⟩ = none := by
  cases failure <;> rfl

theorem Concludes.slots (concludes : Concludes id origin node middle result after) :
    after.captures.size = middle.captures.size := by
  cases concludes with
  | passes _ _ | refuses _ => rfl
  | keeps _ => exact Array.size_setIfInBounds

theorem Activity.slots (activity : Activity setting nodes low state steps after) :
    after.captures.size = state.captures.size := by
  induction activity with
  | quiet _ | struck _ _ _ _ _ => rfl
  | append _ _ before later => exact later.trans before
  | visited _ _ _ _ _ _ _ _ concludes ih => exact concludes.slots.trans ih

/-- A matched capture puts the span of its own step into its slot; else a slot stays as the parts have left it. -/
theorem Concludes.captured (concludes : Concludes id origin node middle result after)
    (found : setting.grammar.node? id = some node) (starts : ∀ span, result = some span → span.start = origin)
    (inside : ∀ own, node.slot? = some own → own < middle.captures.size) (slot : Nat) :
    after.captures[slot]?.join = (setting.grammar.captured? slot
      ⟨id, origin, depth, .ofResult result after.failure⟩).or middle.captures[slot]?.join := by
  cases concludes with
  | @passes result position _ plain =>
    cases result with
    | none => rw [captured?_unmatched (stop?_of_failed _), Option.none_or, State.rewind]
    | some span =>
      have other : node.slot? ≠ some slot := plain span rfl ▸ (Option.some_ne_none slot).symm
      rw [captured?_of_other found other, Option.none_or, State.rewind]
  | refuses _ =>
    rw [captured?_unmatched rfl, Option.none_or]
    rfl
  | @keeps own span kept =>
    simp only [State.keep, Array.getElem?_setIfInBounds]
    split
    next same =>
      have start : span.start = origin := starts span rfl
      rw [captured?_of_slot found (same ▸ kept) rfl, if_pos (inside own kept), Option.some_or, Option.join_some,
        ← start]
    next differs =>
      have other : node.slot? ≠ some slot := kept ▸ mt Option.some.inj differs
      rw [captured?_of_other found other, Option.none_or]

theorem Activity.captures (activity : Activity setting nodes low state steps after)
    (coherent : setting.grammar.Coherent) (sized : state.captures.size = setting.grammar.captureNames.size)
    (slot : Nat) :
    Retained (setting.grammar.captured? slot) steps state.captures[slot]?.join after.captures[slot]?.join := by
  induction activity with
  | quiet _ => exact retained_nil
  | append before later ih ih' =>
    exact (ih sized).append (ih' (before.slots.trans sized)) before.logged later.logged
  | struck _ _ _ _ _ => exact .unwritten (List.forall_mem_singleton.mpr (captured?_unmatched rfl))
  | @visited _ _ state _ id node inner middle result after _ _ sound _ _ found evaluation parts concludes ih =>
    have starts : ∀ span, result = some span → span.start = state.position :=
      fun span matched => ((evaluation.rollback sound).matched span matched).1
    have inside : ∀ own, node.slot? = some own → own < middle.captures.size := by
      intro own kept
      rw [parts.slots, State.descend, State.enter, sized]
      exact Node.slot_lt_of_lawful (coherent.lawful id node found) kept
    have own : (after.ascend.leave state.traceSize result).captures[slot]?.join =
        (setting.grammar.captured? slot (entry state id (.ofResult result after.failure))).or
          middle.captures[slot]?.join := concludes.captured found starts inside slot
    rw [own]
    exact (ih sized).visit parts.logged.deep

end Steps

section Names

theorem find?_filled {α : Type} {items : List (Option α)} {property : α → Bool} {place : Nat}
    (only : ∀ other item, items[other]? = some (some item) → (property item = true ↔ other = place)) :
    (items.filterMap id).find? property = items[place]?.join := by
  cases found : (items.filterMap id).find? property with
  | some item =>
    have member := List.mem_of_find?_eq_some found
    rw [List.mem_filterMap] at member
    obtain ⟨filled, member, same⟩ := member
    obtain rfl : filled = some item := same
    obtain ⟨other, placed⟩ := List.getElem?_of_mem member
    obtain rfl := (only other item placed).mp (List.find?_some found)
    exact (congrArg Option.join placed).symm
  | none =>
    cases placed : items[place]?.join with
    | none => rfl
    | some item =>
      have placed := Option.join_eq_some_iff.mp placed
      have member : item ∈ items.filterMap id := List.mem_filterMap.mpr ⟨_, List.mem_of_getElem? placed, rfl⟩
      have refused := List.find?_eq_none.mp found item member
      exact absurd ((only place item placed).mpr rfl) refused

theorem name_of_slot {run : Run} (sized : run.final.captures.size = run.grammar.captureNames.size) {slot : Nat}
    {found : Match} (filled : run.outcome.captures.slots.toList[slot]? = some (some found)) :
    ∃ name, run.grammar.captureNames[slot]? = some name ∧ found.name = some name := by
  rw [Array.getElem?_toList, Run.outcome, Array.getElem?_mapIdx, Option.map_eq_some_iff] at filled
  obtain ⟨span, kept, filled⟩ := filled
  obtain ⟨_, _, rfl⟩ := Option.map_eq_some_iff.mp filled
  have inside : slot < run.grammar.captureNames.size := sized ▸ (Array.getElem?_eq_some_iff.mp kept).1
  exact ⟨_, Array.getElem?_eq_getElem inside, Array.getElem?_eq_getElem inside⟩

theorem captureNamed?_eq {run : Run} (distinct : run.grammar.captureNames.toList.Nodup)
    (sized : run.final.captures.size = run.grammar.captureNames.size) (name : String) :
    run.outcome.captureNamed? name = (run.grammar.captureSlot? name).bind run.outcome.capture? := by
  cases known : run.grammar.captureSlot? name with
  | none =>
    apply List.find?_eq_none.mpr
    intro found member named
    obtain ⟨filled, member, same⟩ := List.mem_filterMap.mp member
    obtain rfl : filled = some found := same
    obtain ⟨slot, filled⟩ := List.getElem?_of_mem member
    obtain ⟨own, placed, named'⟩ := name_of_slot sized filled
    obtain rfl := Option.some.inj (eq_of_beq (named' ▸ named))
    have other := Array.findIdx?_eq_none_iff.mp known own (Array.mem_of_getElem? placed)
    cases (beq_self_eq_true own).symm.trans other
  | some place =>
    obtain ⟨inside, first, _⟩ := Array.findIdx?_eq_some_iff_getElem.mp known
    have here : run.grammar.captureNames[place]? = some name := by
      rw [Array.getElem?_eq_getElem inside, eq_of_beq first]
    refine (find?_filled ?_).trans (congrArg Option.join Array.getElem?_toList)
    intro other found filled
    obtain ⟨own, placed, named⟩ := name_of_slot sized filled
    rw [named, beq_iff_eq, Option.some_inj]
    constructor
    · rintro rfl
      have both := placed.trans here.symm
      obtain ⟨within, _⟩ := Array.getElem?_eq_some_iff.mp placed
      rw [← Array.getElem?_toList, ← Array.getElem?_toList] at both
      exact (List.getElem?_inj within distinct).mp both
    · rintro rfl
      exact Option.some.inj (placed.symm.trans here)

end Names

/-- A capture holds the span of the last completed step that matched into its slot, whatever became of the
patterns around that step, and none if there was no such step. The span lies between the start of the
run and the end of the text, and its value is the text there. A name leads to the same capture as its
slot. -/
theorem capture_is_last_match {grammar : Grammar} (drafted : grammar.Drafted) {limits : Limits} {id : Nat}
    {source : Source} {before : Trace} {run : Run}
    (ran : grammar.runWith limits id source (some before) = .ok run) :
    ∃ steps, run.final.trace = some (before.append steps) ∧
      (∀ slot, (run.outcome.capture? slot = none ↔ ∀ step ∈ steps, grammar.captured? slot step = none) ∧
        ∀ span, (run.outcome.capture? slot).map Match.span = some span ↔
          ∃ index, LastCompleted (grammar.captured? slot) steps index span) ∧
      (∀ slot found, run.outcome.capture? slot = some found → source.position ≤ found.span.start ∧
        found.span.start ≤ found.span.stop ∧ found.span.stop ≤ source.size ∧
        found.value.toList = (source.scalars.extract found.span.start found.span.stop).toList) ∧
      ∀ name, run.outcome.captureNamed? name = (grammar.captureSlot? name).bind run.outcome.capture? := by
  obtain ⟨height, result, final, rfl, evaluation⟩ := runWith_iff.mp ran
  have coherent := drafted.coherent
  have sound := sound_initial ⟨grammar, source.scalars, limits⟩ source.position_le (some before)
  obtain ⟨steps, activity⟩ := evaluation.acts sound (Nat.le_refl _)
  have sized : (State.initial grammar source.position (some before)).captures.size = grammar.captureNames.size :=
    Array.size_replicate
  have empty (slot : Nat) : (State.initial grammar source.position (some before)).captures[slot]?.join = none := by
    rw [State.initial, Array.getElem?_replicate]
    split <;> rfl
  have latest (slot : Nat) := (empty slot ▸ activity.captures coherent sized slot).latest
  refine ⟨steps, activity.logged.trace, ?_, ?_, captureNamed?_eq coherent.distinct (activity.slots.trans sized)⟩
  · intro slot
    obtain ⟨silent, last⟩ := latest slot
    rw [capture?_outcome, Option.map_eq_none_iff, Option.map_map]
    refine ⟨silent, fun span => ?_⟩
    have same : Match.span ∘ Match.ofSpan source (grammar.captureName? slot) = fun span => span := rfl
    rw [← last span, same, Option.map_id']
  · intro slot found kept
    rw [capture?_outcome] at kept
    obtain ⟨span, held, rfl⟩ := Option.map_eq_some_iff.mp kept
    obtain ⟨index, ⟨step, here, captured⟩, _⟩ := ((latest slot).2 span).mp held
    have member := List.mem_of_getElem? here
    obtain ⟨_, _, _, _, attempt, _⟩ := activity.attempts step member
    obtain ⟨ordered, inside⟩ := attempt.captured captured
    have ahead : source.position ≤ span.start := (verdict_of_captured captured).1 ▸ activity.ahead step member
    exact ⟨ahead, ordered, inside, toList_slice_inside ordered inside⟩

/-- Both letters are captured under one name, and the second one is kept, although the negation around them
refuses and goes back to the start. -/
theorem refused_letter_is_last_match :
    let operations : List Draft.Operation :=
      [.literal "a" .sensitive, .capture 0 "letter", .literal "b" .sensitive, .capture 2 "letter",
        .sequence 1 3, .negate 4]
    ∃ grammar run steps index, (Draft.perform {} operations).seal 5 = .ok grammar ∧
      grammar.consume (.ofString "ab") (some {}) = .ok run ∧ run.result = none ∧
      run.final.trace = some (Trace.append {} steps) ∧
      LastCompleted (grammar.captured? 0) steps index ⟨1, 2⟩ ∧
      run.outcome.captureNamed? "letter" = (grammar.captureSlot? "letter").bind run.outcome.capture? := by
  intro operations
  have answers : ((Draft.perform {} operations).seal 5).toOption.any (fun grammar =>
      (grammar.consume (.ofString "ab") (some {})).toOption.any fun run => run.result == none &&
        (run.outcome.capture? 0).map Match.span == some ⟨1, 2⟩) = true := by decide +kernel
  cases built : (Draft.perform {} operations).seal 5 with
  | error error => cases built ▸ answers
  | ok grammar =>
    cases ran : grammar.consume (.ofString "ab") (some {}) with
    | error halt => simp [built, ran, Except.toOption] at answers
    | ok run =>
      obtain ⟨failed, kept⟩ : run.result = none ∧ (run.outcome.capture? 0).map Match.span = some ⟨1, 2⟩ := by
        simpa [built, ran, Except.toOption] using answers
      obtain ⟨steps, trace, latest, _, named⟩ := capture_is_last_match (.sealed built) ran
      obtain ⟨index, last⟩ := ((latest 0).2 ⟨1, 2⟩).mp kept
      exact ⟨grammar, run, steps, index, rfl, ran, failed, trace, last, named "letter"⟩

end Proofs
end Peg
