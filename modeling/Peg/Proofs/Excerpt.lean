import Peg.Matching.Outcome
import Peg.Proofs.Drafting
import Peg.Proofs.Rollback
import Peg.Proofs.Slice
import Peg.Proofs.Termination

/-! The texts that are cut out of a source. Whatever the two positions are, the byte offsets they stand for are in
the table, in order, and do not cut through a character. The spans that a run finds lie within the text,
so what it matches and keeps has the very characters of its span. -/

namespace Peg

/-- The span is in order and ends within a text of this size. -/
def Span.Within (size : Nat) (span : Span) : Prop := span.start ≤ span.stop ∧ span.stop ≤ size

namespace Proofs

section Offsets
variable {source : Source} {start stop : Nat}

/-- The offsets of two positions lie on boundaries of characters, the earlier one first. -/
theorem exists_offsets (ordered : start ≤ stop) (inside : stop ≤ source.size) :
    ∃ first last, source.offsets[start]? = some first ∧ source.offsets[stop]? = some last ∧ first ≤ last ∧
      String.Pos.Raw.IsValid source.text ⟨first⟩ ∧ String.Pos.Raw.IsValid source.text ⟨last⟩ := by
  have boundary (position : Nat) :
      String.Pos.Raw.IsValid source.text ⟨String.utf8Len (source.text.toList.take position)⟩ := by
    rw [← source.text.ofList_toList, String.toList_ofList, String.Pos.Raw.isValid_ofList]
    exact ⟨position, (String.utf8ByteSize_ofList _).symm⟩
  refine ⟨_, _, getElem?_offsets (Nat.le_trans ordered inside), getElem?_offsets inside, ?_, boundary _, boundary _⟩
  have front : source.text.toList.take start <+: source.text.toList.take stop := List.take_prefix_take_left ordered
  obtain ⟨middle, whole⟩ := front
  rw [← whole, String.utf8Len_append]
  exact Nat.le_add_right _ _

theorem toList_slice_eq_extract (source : Source) (span : Span) :
    let start := min span.start source.size
    let stop := max (min span.stop source.size) start
    (source.slice span).toList = source.text.toList.extract start stop := by
  intro start stop
  rw [toList_slice, Array.toList_extract, source.scalars_eq]

theorem toList_slice_within {span : Span} (within : span.Within source.size) :
    (source.slice span).toList = source.text.toList.extract span.start span.stop ∧
      (source.slice span).length = span.stop - span.start := by
  obtain ⟨ordered, inside⟩ := within
  have same : (source.slice span).toList = source.text.toList.extract span.start span.stop := by
    rw [toList_slice_inside ordered inside, Array.toList_extract, source.scalars_eq]
  refine ⟨same, ?_⟩
  have most : span.stop ≤ source.text.toList.length := by rwa [String.length_toList, ← source.size_eq]
  rw [← String.length_toList, same, List.extract_eq_take_drop, List.length_take, List.length_drop]
  omega

end Offsets

section Captures
variable {setting : Setting} {state after : State} {task : Task} {result : Option Span} {height : Nat}

def CapturesWithin (setting : Setting) (state : State) : Prop :=
  ∀ (slot : Nat) (span : Span), state.captures[slot]? = some (some span) → span.Within setting.scalars.size

theorem CapturesWithin.keep {slot : Nat} {span : Span} (within : CapturesWithin setting state)
    (own : span.Within setting.scalars.size) : CapturesWithin setting (state.keep slot span) := by
  intro other kept found
  rw [State.keep, Array.getElem?_setIfInBounds] at found
  split at found
  next =>
    split at found
    · cases found
      exact own
    · cases found
  next => exact within other kept found

theorem capturesWithin_initial (setting : Setting) (position : Nat) (trace : Option Trace) :
    CapturesWithin setting (State.initial setting.grammar position trace) := by
  intro slot span found
  rw [State.initial, Array.getElem?_replicate] at found
  split at found <;> cases found

/-- Only a capture writes, and it writes the span of a match that has just been made. -/
theorem Evaluates.captures_within (evaluation : Evaluates setting height task state result after)
    (sound : Sound setting state) (within : CapturesWithin setting state) : CapturesWithin setting after := by
  induction evaluation with
  | halted _ | exceeded _ _ | literal_fail _ | literal _ | checker_end _ | checker_fail _ _ | checker _ _
  | times_done => exact within
  | entered _ _ _ _ ih => exact ih ⟨sound.inside, sound.explained⟩ within
  | sequence_left _ ih | choice_left _ ih | negate_found _ ih | negate_aborted _ _ ih | negate _ _ ih
  | optional _ ih | optional_aborted _ _ ih | optional_empty _ _ ih | times _ ih | times_fail _ ih | span _ ih
  | span_still _ _ ih | span_aborted _ _ ih | span_end _ _ ih | capture_fail _ ih | rule _ ih =>
    exact ih sound within
  | sequence_right first _ ih ih' | sequence first _ ih ih' | times_next first _ ih ih'
  | span_next first _ _ ih ih' => exact ih' (first.sound sound) (ih sound within)
  | choice_right first _ ih ih' =>
    exact ih' ⟨sound.inside, first.stays_explained sound.explained⟩ (ih sound within)
  | capture found ih =>
    obtain ⟨start, forward, inside, _⟩ := (found.rollback sound).matched _ rfl
    exact (ih sound within).keep ⟨start ▸ forward, inside⟩

end Captures

theorem spans_within {grammar : Grammar} {limits : Limits} {id : Nat} {source : Source} {trace : Option Trace}
    {run : Run} (ran : grammar.runWith limits id source trace = .ok run) :
    run.start = source ∧ (∀ span, run.result = some span → span.Within source.size) ∧
      ∀ (slot : Nat) (span : Span), run.final.captures[slot]? = some (some span) → span.Within source.size := by
  obtain ⟨height, result, after, rfl, evaluation⟩ := runWith_iff.mp ran
  have sound := sound_initial ⟨grammar, source.scalars, limits⟩ source.position_le trace
  refine ⟨rfl, ?_, evaluation.captures_within sound (capturesWithin_initial _ _ _)⟩
  intro span matched
  obtain ⟨start, forward, inside, _⟩ := (evaluation.rollback sound).matched span matched
  exact ⟨start ▸ forward, inside⟩

theorem excerpt_of_found {grammar : Grammar} {limits : Limits} {id : Nat} {source : Source} {trace : Option Trace}
    {run : Run} (ran : grammar.runWith limits id source trace = .ok run) {found : Match}
    (present : run.outcome.matched = some found ∨ ∃ slot, run.outcome.capture? slot = some found) :
    found.span.Within source.size ∧ found.value = source.slice found.span := by
  obtain ⟨rfl, matched, captured⟩ := spans_within ran
  rcases present with present | ⟨slot, present⟩
  · obtain ⟨span, own, rfl⟩ := Option.map_eq_some_iff.mp present
    exact ⟨matched span own, rfl⟩
  · rw [capture?_outcome] at present
    obtain ⟨span, own, rfl⟩ := Option.map_eq_some_iff.mp present
    exact ⟨captured slot span (Option.join_eq_some_iff.mp own), rfl⟩

/-- A slice has the characters between its positions, where positions beyond the end mean the end and an end before
the start means the start. The byte offsets at which it is cut are in the table, in order and on boundaries
of characters, whatever the positions are. So in every run, the value of the match and of every capture is
the text of its span, one character for each position. -/
theorem slice_cuts_whole_characters :
    (∀ (source : Source) (span : Span),
      let start := min span.start source.size
      let stop := max (min span.stop source.size) start
      (source.slice span).toList = source.text.toList.extract start stop ∧
      ∃ first last, source.offsets[start]? = some first ∧ source.offsets[stop]? = some last ∧ first ≤ last ∧
        String.Pos.Raw.IsValid source.text ⟨first⟩ ∧ String.Pos.Raw.IsValid source.text ⟨last⟩ ∧
        source.slice span = String.Pos.Raw.extract source.text ⟨first⟩ ⟨last⟩) ∧
    ∀ (grammar : Grammar) (limits : Limits) (id : Nat) (source : Source) (trace : Option Trace) (run : Run),
      grammar.runWith limits id source trace = .ok run → ∀ found,
        (run.outcome.matched = some found ∨ ∃ slot, run.outcome.capture? slot = some found) →
        found.span.Within source.size ∧
        found.value.toList = source.text.toList.extract found.span.start found.span.stop ∧
        found.value.length = found.span.stop - found.span.start := by
  constructor
  · intro source span start stop
    have inside : stop ≤ source.size := by omega
    obtain ⟨first, last, here, there, ordered, boundaries⟩ := exists_offsets (Nat.le_max_right _ start) inside
    refine ⟨toList_slice_eq_extract source span, first, last, here, there, ordered, boundaries.1, boundaries.2, ?_⟩
    have cut : source.slice span =
        String.Pos.Raw.extract source.text ⟨source.offsets.getD start 0⟩ ⟨source.offsets.getD stop 0⟩ := rfl
    rw [cut, Array.getD_eq_getD_getElem?, Array.getD_eq_getD_getElem?, here, there, Option.getD_some, Option.getD_some]
  · intro grammar limits id source trace run ran found present
    obtain ⟨within, value⟩ := excerpt_of_found ran present
    exact ⟨within, value ▸ toList_slice_within within⟩

/-- Between two letters of one byte stand a character of two bytes and one of four. The capture of both keeps them
whole. -/
theorem wide_characters_are_kept :
    let operations : List Draft.Operation := [.literal "é🌏" .sensitive, .capture 0 "wide"]
    let source := (Source.ofString "aé🌏b").seek 1
    ∃ grammar run found, (Draft.perform {} operations).seal 1 = .ok grammar ∧
      grammar.consume source none = .ok run ∧ run.outcome.capture? 0 = some found ∧ found.span = ⟨1, 3⟩ ∧
      found.value.toList = source.text.toList.extract 1 3 ∧ found.value.length = 2 := by
  intro operations source
  have answers : ((Draft.perform {} operations).seal 1).toOption.any (fun grammar =>
      (grammar.consume source none).toOption.any fun run =>
        (run.outcome.capture? 0).map Match.span == some ⟨1, 3⟩) = true := by decide +kernel
  obtain ⟨grammar, built, answers⟩ := ok_of_any answers
  obtain ⟨run, ran, kept⟩ := ok_of_any answers
  obtain ⟨found, present, span⟩ := Option.map_eq_some_iff.mp (eq_of_beq kept)
  obtain ⟨_, value, size⟩ := slice_cuts_whole_characters.2 _ _ _ _ _ run ran found (.inr ⟨0, present⟩)
  rw [span] at value size
  exact ⟨grammar, run, found, built, ran, present, span, value, size⟩

end Proofs
end Peg
