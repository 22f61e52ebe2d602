import Peg.Proofs.Slice
import Peg.Proofs.TraceLog
import Peg.Proofs.TraceNeutrality

/-! A run looks at nothing before its start. In a text that has other text in front of it, a run from behind that
text goes the same way at a distance: what it matches, keeps, refuses and writes into its trace lies that much
further on, and the texts of its matches are the same. -/

namespace Peg

namespace Failure

def shift (failure : Failure) (distance : Nat) : Failure := { failure with position := failure.position + distance }

end Failure

def Verdict.shift : Verdict → Nat → Verdict
  | .matched stop, distance => .matched (stop + distance)
  | .failed kind, _ => .failed kind
  | .pending, _ => .pending

namespace Step

def shift (step : Step) (distance : Nat) : Step :=
  { step with position := step.position + distance, verdict := step.verdict.shift distance }

end Step

namespace Match

def shift (found : Match) (distance : Nat) : Match := { found with span := found.span.shift distance }

end Match

/-- The outcome tells the same at a distance. -/
structure Outcome.Displaced (distance : Nat) (outcome other : Outcome) : Prop where
  matched : other.matched = outcome.matched.map (·.shift distance)
  failure : other.failure = outcome.failure.map (·.shift distance)
  captures : other.captures.slots = outcome.captures.slots.map (Option.map (·.shift distance))
  position : other.position = outcome.position + distance

namespace Proofs

/-- The twin has all that the state has at a distance, and the same steps at a distance behind what its own trace
began with. -/
structure Displaced (distance : Nat) (kept kept' : Option Trace) (state twin : State) : Prop where
  position : twin.position = state.position + distance
  failure : twin.failure = state.failure.map (·.shift distance)
  captures : twin.captures = state.captures.map (Option.map (·.shift distance))
  depth : twin.depth = state.depth
  steps : twin.steps = state.steps
  aborted : twin.aborted = state.aborted
  logged : ∃ steps, state.trace = kept.map (·.append steps) ∧
    twin.trace = kept'.map (·.append (steps.map (·.shift distance)))

section Logs
variable {distance : Nat}

theorem enter_append (kept : Option Trace) (steps : List Step) (step : Step) :
    (kept.map (·.append steps)).map (·.enter step) = kept.map (·.append (steps ++ [step])) := by
  cases kept with
  | none => rfl
  | some trace => simp [Trace.enter, Trace.append]

theorem leave_append (kept : Option Trace) (before steps : List Step) (verdict : Verdict) :
    (kept.map (·.append steps)).map (·.leave (((kept.map (·.append before)).map Trace.size).getD 0) verdict) =
      kept.map (·.append (steps.modify before.length fun step => { step with verdict := verdict })) := by
  cases kept with
  | none => rfl
  | some trace =>
    simp only [Option.map_some, Option.getD_some, Option.some.injEq, Trace.leave, Trace.append, Trace.size,
      Trace.mk.injEq]
    apply Array.toList_inj.mp
    have own := List.modifyTailIdx_add (List.modifyHead fun step => { step with verdict := verdict }) before.length
      trace.steps.toList steps
    simpa [List.modify] using own

theorem map_modify {α β : Type} (items : List α) (index : Nat) (change : α → α) (change' : β → β) (view : α → β)
    (same : ∀ item, view (change item) = change' (view item)) :
    (items.modify index change).map view = (items.map view).modify index change' := by
  apply List.ext_getElem?
  intro place
  simp only [List.getElem?_map, List.getElem?_modify]
  cases items[place]? with
  | none => rfl
  | some item =>
    by_cases here : index = place
    · simp only [here, ite_true, Option.map_eq_map, Option.map_some, same]
    · simp only [here, ite_false, Option.map_eq_map, Option.map_some]

theorem ofResult_shift (result : Option Span) (failure : Option Failure) :
    Verdict.ofResult (result.map (·.shift distance)) (failure.map (·.shift distance)) =
      (Verdict.ofResult result failure).shift distance := by
  cases result <;> cases failure <;> rfl

end Logs

section States
variable {setting : Setting} {distance : Nat} {kept kept' : Option Trace} {before before' state twin : State}

theorem Displaced.enter (displaced : Displaced distance kept kept' state twin) (id : Nat) :
    Displaced distance kept kept' (state.enter id) (twin.enter id) := by
  refine ⟨displaced.position, displaced.failure, displaced.captures, displaced.depth,
    congrArg (· + 1) displaced.steps, displaced.aborted, ?_⟩
  obtain ⟨steps, trace, trace'⟩ := displaced.logged
  refine ⟨steps ++ [⟨id, state.position, state.depth, .pending⟩], ?_, ?_⟩
  · rw [State.enter, trace]
    exact enter_append kept steps _
  · rw [State.enter, trace', displaced.position, displaced.depth, List.map_append]
    exact enter_append kept' _ _

theorem Displaced.leave (result : Option Span) (entered : Displaced distance kept kept' before before')
    (displaced : Displaced distance kept kept' state twin) :
    Displaced distance kept kept' (state.leave before.traceSize result)
      (twin.leave before'.traceSize (result.map (·.shift distance))) := by
  refine ⟨displaced.position, displaced.failure, displaced.captures, displaced.depth, displaced.steps,
    displaced.aborted, ?_⟩
  obtain ⟨earlier, early, early'⟩ := entered.logged
  obtain ⟨steps, trace, trace'⟩ := displaced.logged
  let verdict := Verdict.ofResult result state.failure
  have moved : (steps.modify earlier.length fun step => { step with verdict := verdict }).map (·.shift distance) =
      (steps.map (·.shift distance)).modify (earlier.map (·.shift distance)).length
        fun step => { step with verdict := verdict.shift distance } := by
    rw [List.length_map]
    exact map_modify _ _ _ _ _ fun _ => rfl
  refine ⟨steps.modify earlier.length fun step => { step with verdict := verdict }, ?_, ?_⟩
  · rw [State.leave, State.traceSize, trace, early]
    exact leave_append kept earlier steps verdict
  · rw [State.leave, State.traceSize, trace', early', displaced.failure, ofResult_shift, moved]
    exact leave_append kept' _ _ _

theorem Displaced.fail (displaced : Displaced distance kept kept' state twin) (kind : FailureKind) (id : Nat) :
    Displaced distance kept kept' (state.fail kind id).2 (twin.fail kind id).2 := by
  refine ⟨displaced.position, ?_, displaced.captures, displaced.depth, displaced.steps, displaced.aborted,
    displaced.logged⟩
  exact congrArg (some ∘ Failure.mk kind id) displaced.position

theorem Displaced.keep (displaced : Displaced distance kept kept' state twin) (slot : Nat) (span : Span) :
    Displaced distance kept kept' (state.keep slot span) (twin.keep slot (span.shift distance)) := by
  refine ⟨displaced.position, displaced.failure, ?_, displaced.depth, displaced.steps, displaced.aborted,
    displaced.logged⟩
  rw [State.keep, State.keep, displaced.captures, Array.map_setIfInBounds]
  rfl

theorem displaced_initial (grammar : Grammar) (position : Nat) :
    Displaced distance kept kept' (State.initial grammar position kept)
      (State.initial grammar (position + distance) kept') := by
  refine ⟨rfl, rfl, ?_, rfl, rfl, rfl, [], (map_append_nil kept).symm, (map_append_nil kept').symm⟩
  rw [State.initial, State.initial, Array.map_replicate, Option.map_none]

end States

section Texts
variable {grammar : Grammar} {limits : Limits} {front text : String} {kept kept' : Option Trace}

theorem drop_behind (position : Nat) :
    (Source.ofString (front ++ text)).scalars.toList.drop (position + front.length) =
      (Source.ofString text).scalars.toList.drop position := by
  have whole : (Source.ofString (front ++ text)).scalars.toList = front.toList ++ text.toList :=
    String.toList_append
  rw [whole, Nat.add_comm, ← List.drop_drop, ← String.length_toList, List.drop_left]
  rfl

theorem getElem?_behind (position : Nat) : (Source.ofString (front ++ text)).scalars[position + front.length]? =
    (Source.ofString text).scalars[position]? := by
  rw [← Array.getElem?_toList, ← Array.getElem?_toList, ← List.head?_drop, ← List.head?_drop, drop_behind]

theorem lockstep_displaced (limits : Limits) : Lockstep ⟨grammar, (Source.ofString text).scalars, limits⟩
    ⟨grammar, (Source.ofString (front ++ text)).scalars, limits⟩ front.length (fun _ => True)
    (Displaced front.length kept kept') where
  node _ found := found
  child _ _ _ _ := trivial
  scalars := getElem?_behind
  position displaced := displaced.position
  aborted displaced := displaced.aborted
  within displaced below := by rw [displaced.steps, displaced.depth, below]
  rewind _ displaced := ⟨rfl, displaced.failure, displaced.captures, displaced.depth, displaced.steps,
    displaced.aborted, displaced.logged⟩
  fail kind node displaced := displaced.fail kind node
  keep span _ _ displaced := displaced.keep _ span
  enter node displaced := displaced.enter node
  leave result entered displaced := entered.leave result displaced
  descend displaced := ⟨displaced.position, displaced.failure, displaced.captures,
    congrArg (· + 1) displaced.depth, displaced.steps, displaced.aborted, displaced.logged⟩
  ascend displaced := ⟨displaced.position, displaced.failure, displaced.captures,
    congrArg (· - 1) displaced.depth, displaced.steps, displaced.aborted, displaced.logged⟩

theorem aborts_displaced (limits : Limits) : AbortsAlike ⟨grammar, (Source.ofString text).scalars, limits⟩
    ⟨grammar, (Source.ofString (front ++ text)).scalars, limits⟩ (Displaced front.length kept kept') where
  beyond displaced beyond := by rw [displaced.steps, displaced.depth, beyond]
  abort limit node displaced :=
    have failed := displaced.fail (.limitExceeded limit) node
    ⟨failed.position, failed.failure, failed.captures, failed.depth, failed.steps, rfl, failed.logged⟩

theorem size_behind : (Source.ofString (front ++ text)).size = (Source.ofString text).size + front.length := by
  rw [Source.size_eq, Source.size_eq]
  exact (String.length_append ..).trans (Nat.add_comm ..)

theorem slice_behind (span : Span) : (Source.ofString (front ++ text)).slice (span.shift front.length) =
    (Source.ofString text).slice span := by
  apply String.toList_inj.mp
  refine (toList_slice _ _).trans ((?_ : _ = _).trans (toList_slice _ _).symm)
  rw [size_behind, Span.shift, Nat.add_min_add_right, Nat.add_min_add_right, Nat.add_max_add_right,
    Array.toList_extract, Array.toList_extract, List.extract_eq_take_drop, List.extract_eq_take_drop, drop_behind, Nat.add_sub_add_right]

theorem ofSpan_behind (name : Option String) (span : Span) :
    Match.ofSpan ((Source.ofString (front ++ text)).seek front.length) name (span.shift front.length) =
      (Match.ofSpan (Source.ofString text) name span).shift front.length :=
  congrArg (Match.mk _ name) (slice_behind span)

theorem outcome_displaced {id : Nat} {result : Option Span} {after ending : State}
    (displaced : Displaced front.length kept kept' after ending) :
    Outcome.Displaced front.length (Run.outcome ⟨grammar, Source.ofString text, id, result, after⟩)
      (Run.outcome ⟨grammar, (Source.ofString (front ++ text)).seek front.length, id,
        result.map (·.shift front.length), ending⟩) := by
  refine ⟨?_, displaced.failure, ?_, ?_⟩
  · cases result with
    | none => rfl
    | some span => exact congrArg some (ofSpan_behind none span)
  · apply Array.ext_getElem?
    intro slot
    simp only [Run.outcome, displaced.captures, Array.getElem?_map, Array.getElem?_mapIdx, Option.map_map]
    rcases after.captures[slot]? with _ | _ | span
    · rfl
    · rfl
    · exact congrArg (some ∘ some) (ofSpan_behind _ span)
  · show min ending.position (Source.ofString (front ++ text)).size =
      min after.position (Source.ofString text).size + front.length
    rw [displaced.position, size_behind, Nat.add_min_add_right]

end Texts

theorem runWith_unknown {grammar : Grammar} {limits : Limits} {id : Nat} {source : Source} {trace : Option Trace}
    (unknown : grammar.node? id = none) : grammar.runWith limits id source trace = .error (.unknownNode id) := by
  have halted : Setting.evaluate ⟨grammar, source.scalars, limits⟩ id
    (State.initial grammar source.position trace) = .error (.unknownNode id) := evaluate_unknown unknown _ _
  simp only [Grammar.runWith, halted]

/-- A run from behind some text finds in what follows the same as a run from the start of what follows, at a
distance: both return or neither does, they match and keep the same texts, end at the same place with the same
failure, and each writes the same steps into its trace, whatever is in the traces already. -/
theorem run_sees_only_what_follows (grammar : Grammar) (limits : Limits) (id : Nat) (front text : String)
    (trace trace' : Option Trace) :
    let here := Source.ofString text
    let there := (Source.ofString (front ++ text)).seek front.length
    (∃ halt, grammar.runWith limits id here trace = .error halt ∧
      grammar.runWith limits id there trace' = .error halt) ∨
    ∃ run run' steps, grammar.runWith limits id here trace = .ok run ∧
      grammar.runWith limits id there trace' = .ok run' ∧ run.outcome.Displaced front.length run'.outcome ∧
      run.final.trace = trace.map (·.append steps) ∧
      run'.final.trace = trace'.map (·.append (steps.map (·.shift front.length))) := by
  intro here there
  have start : there.position = 0 + front.length := by
    have inside : front.length ≤ (Source.ofString (front ++ text)).size := size_behind ▸ Nat.le_add_left _ _
    exact (Nat.min_eq_left inside).trans (Nat.zero_add _).symm
  cases found : grammar.node? id with
  | none => exact .inl ⟨_, runWith_unknown found, runWith_unknown found⟩
  | some node =>
    have known : id < grammar.size := (Array.getElem?_eq_some_iff.mp found).1
    have initial : Displaced front.length trace trace' (State.initial grammar here.position trace)
        (State.initial grammar there.position trace') := by
      rw [start]
      exact displaced_initial grammar here.position
    have lockstep : ∀ limits,
        Lockstep ⟨grammar, here.scalars, limits⟩ ⟨grammar, there.scalars, limits⟩ front.length (fun _ => True)
          (Displaced front.length trace trace') ∧
        AbortsAlike ⟨grammar, here.scalars, limits⟩ ⟨grammar, there.scalars, limits⟩
          (Displaced front.length trace trace') :=
      fun limits => ⟨lockstep_displaced limits, aborts_displaced limits⟩
    rcases runs_in_lockstep lockstep trivial known initial limits with
      ⟨failed, failed'⟩ | ⟨result, after, ending, ran, ran', displaced⟩
    · exact .inl ⟨_, failed, failed'⟩
    · obtain ⟨steps, logged, logged'⟩ := displaced.logged
      exact .inr ⟨_, _, steps, ran, ran', outcome_displaced displaced, logged, logged'⟩

end Proofs
end Peg
