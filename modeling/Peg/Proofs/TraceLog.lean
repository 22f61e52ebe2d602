import Peg.Proofs.Evaluation

/-! What a run writes into its trace: the steps of an evaluation, in the order in which the nodes are
entered. The nodes that are still being evaluated at a step are read off from the depths alone, and
so is what becomes of the steps when the run is cut short at one of them. -/

namespace Peg

def Trace.append (trace : Trace) (steps : List Step) : Trace := ⟨trace.steps ++ steps.toArray⟩

namespace Proofs

theorem map_append_nil (trace : Option Trace) : trace.map (·.append []) = trace := by
  cases trace <;> simp [Trace.append]

theorem trace_append_append (trace : Trace) (first second : List Step) :
    (trace.append first).append second = trace.append (first ++ second) := by
  simp [Trace.append, Array.append_assoc]

/-- The steps that an evaluation adds to the log, from the state in which it begins to the one in
which it ends. -/
structure Logged (state : State) (steps : List Step) (after : State) : Prop where
  trace : after.trace = state.trace.map (·.append steps)
  count : after.steps = state.steps + steps.length
  depth : after.depth = state.depth
  deep : ∀ step ∈ steps, state.depth ≤ step.depth
  head : ∀ step, steps.head? = some step → step.depth = state.depth

/-- The states differ at most in their positions, failures and captures. -/
structure Alike (state after : State) : Prop where
  trace : after.trace = state.trace
  count : after.steps = state.steps
  depth : after.depth = state.depth
  aborted : after.aborted = state.aborted

section Logs
variable {state middle after last : State} {steps first second : List Step}

theorem logged_nil (trace : after.trace = state.trace) (count : after.steps = state.steps)
    (depth : after.depth = state.depth) : Logged state [] after := by
  refine ⟨by rw [trace, map_append_nil], count, depth, ?_, ?_⟩
  · intro step impossible
    cases impossible
  · intro step impossible
    cases impossible

theorem Logged.alike (logged : Logged state steps last) (alike : Alike last after) :
    Logged state steps after :=
  ⟨alike.trace.trans logged.trace, alike.count.trans logged.count, alike.depth.trans logged.depth,
    logged.deep, logged.head⟩

theorem Logged.append (before : Logged state first middle) (later : Logged middle second after) :
    Logged state (first ++ second) after := by
  refine ⟨?_, ?_, later.depth.trans before.depth, ?_, ?_⟩
  · rw [later.trace, before.trace, Option.map_map]
    congr 1
    funext trace
    exact trace_append_append trace first second
  · rw [later.count, before.count, List.length_append, Nat.add_assoc]
  · intro step member
    rcases List.mem_append.mp member with earlier | later'
    · exact before.deep step earlier
    · exact before.depth ▸ later.deep step later'
  · intro step found
    cases first with
    | nil => exact before.depth ▸ later.head step found
    | cons => exact before.head step found

end Logs

theorem leave_enter (trace : Trace) (step : Step) (inner : List Step) (verdict : Verdict) :
    ((trace.enter step).append inner).leave trace.size verdict =
      trace.append ({ step with verdict := verdict } :: inner) := by
  simp only [Trace.leave, Trace.enter, Trace.append, Trace.size, Trace.mk.injEq]
  apply Array.toList_inj.mp
  have own := List.modifyTailIdx_add (List.modifyHead fun step => { step with verdict := verdict }) 0
    trace.steps.toList (step :: inner)
  simpa [List.modify] using own

def entry (state : State) (id : Nat) (verdict : Verdict) : Step :=
  ⟨id, state.position, state.depth, verdict⟩

theorem trace_leave {state after : State} {id : Nat} {inner : List Step} (result : Option Span)
    (entered : after.trace = (state.enter id).trace.map (·.append inner)) :
    (after.leave state.traceSize result).trace =
      state.trace.map (·.append (entry state id (.ofResult result after.failure) :: inner)) := by
  cases kept : state.trace with
  | none => simp only [State.leave, State.enter, entered, kept, Option.map_none]
  | some trace =>
    simp only [State.leave, State.enter, State.traceSize, entered, kept, Option.map_some, Option.getD_some,
      leave_enter, entry]

theorem Logged.leave {state after : State} {id : Nat} {inner : List Step} (result : Option Span)
    (logged : Logged (state.enter id).descend inner after) :
    Logged state (entry state id (.ofResult result after.failure) :: inner)
      (after.ascend.leave state.traceSize result) := by
  have trace : (after.ascend.leave state.traceSize result).trace = _ := trace_leave result logged.trace
  refine ⟨trace, ?_, ?_, ?_, ?_⟩
  · have count : after.steps = state.steps + 1 + inner.length := logged.count
    rw [List.length_cons, Nat.add_comm inner.length, ← Nat.add_assoc]
    exact count
  · have depth : after.depth = state.depth + 1 := logged.depth
    show after.depth - 1 = state.depth
    rw [depth, Nat.add_sub_cancel]
  · intro step member
    rcases List.mem_cons.mp member with rfl | within
    · exact Nat.le_refl _
    · exact Nat.le_of_succ_le (logged.deep step within)
  · intro step found
    cases found
    rfl

/-- The first of these steps is still open at the second. A node is left before another one is
entered at its own depth or above, so all steps in between are deeper than it. -/
def Encloses (steps : List Step) (outer inner : Nat) : Prop :=
  outer ≤ inner ∧ ∀ between step other, outer < between → between ≤ inner →
    steps[outer]? = some step → steps[between]? = some other → step.depth < other.depth

/-- The log of a run that a limit ends at the last of these steps. Up to there it has the same
steps, and those that are still open have failed by the limit. -/
structure CutShort (limit : Limit) (steps : List Step) (last : Nat) (part : List Step) : Prop where
  length : part.length = last + 1
  enclosing : ∀ index step, Encloses steps index last → steps[index]? = some step →
    part[index]? = some { step with verdict := .failed (.limitExceeded limit) }
  other : ∀ index step, index ≤ last → ¬ Encloses steps index last → steps[index]? = some step →
    part[index]? = some step

section Cutting
variable {first second part : List Step} {outer last : Nat} {limit : Limit}

theorem encloses_append_left (inside : last < first.length) :
    Encloses (first ++ second) outer last ↔ Encloses first outer last := by
  have same {index : Nat} (before : index ≤ last) : (first ++ second)[index]? = first[index]? :=
    List.getElem?_append_left (Nat.lt_of_le_of_lt before inside)
  refine and_congr_right fun ordered => ?_
  rw [same ordered]
  constructor
  · intro deeper between step other behind before
    rw [← same before]
    exact deeper between step other behind before
  · intro deeper between step other behind before
    rw [same before]
    exact deeper between step other behind before

theorem encloses_append_right :
    Encloses (first ++ second) (first.length + outer) (first.length + last) ↔ Encloses second outer last := by
  have shift (index : Nat) : (first ++ second)[first.length + index]? = second[index]? := by
    rw [List.getElem?_append_right (Nat.le_add_right _ _), Nat.add_sub_cancel_left]
  unfold Encloses
  rw [shift, Nat.add_le_add_iff_left]
  refine and_congr_right fun ordered => ?_
  constructor
  · intro deeper between step other behind before
    have here := deeper (first.length + between) step other (by omega) (by omega)
    rwa [shift] at here
  · intro deeper between step other behind before
    obtain ⟨between, rfl⟩ := Nat.exists_eq_add_of_le (show first.length ≤ between by omega)
    rw [shift]
    exact deeper between step other (by omega) (by omega)

theorem encloses_cons {step : Step} :
    Encloses (step :: second) (outer + 1) (last + 1) ↔ Encloses second outer last := by
  have shift := @encloses_append_right [step] second outer last
  rwa [List.length_singleton, Nat.add_comm 1, Nat.add_comm 1] at shift

theorem encloses_head {step : Step} (deep : ∀ other ∈ second, step.depth < other.depth) :
    Encloses (step :: second) 0 last := by
  refine ⟨Nat.zero_le _, ?_⟩
  intro between own other behind _ first found
  obtain ⟨between, rfl⟩ := Nat.exists_eq_succ_of_ne_zero (Nat.ne_zero_of_lt behind)
  cases first
  exact deep other (List.mem_of_getElem? found)

theorem not_encloses_append {depth : Nat} (deep : ∀ step ∈ first, depth ≤ step.depth)
    (head : ∀ step, second.head? = some step → step.depth = depth) (inside : last < second.length)
    (earlier : outer < first.length) : ¬ Encloses (first ++ second) outer (first.length + last) := by
  rintro ⟨_, deeper⟩
  cases second with
  | nil => cases inside
  | cons next rest =>
    have here : (first ++ next :: rest)[first.length]? = some next := by
      rw [List.getElem?_append_right (Nat.le_refl _), Nat.sub_self, List.getElem?_cons_zero]
    have there : (first ++ next :: rest)[outer]? = some first[outer] := by
      rw [List.getElem?_append_left earlier, List.getElem?_eq_getElem earlier]
    have below := deeper first.length _ next earlier (Nat.le_add_right _ _) there here
    have above := deep first[outer] (List.getElem_mem earlier)
    rw [head next rfl] at below
    exact Nat.not_lt_of_le above below

theorem CutShort.append_left (short : CutShort limit first last part) (inside : last < first.length) :
    CutShort limit (first ++ second) last part := by
  refine ⟨short.length, ?_, ?_⟩
  · intro index step encloses found
    rw [List.getElem?_append_left (Nat.lt_of_le_of_lt encloses.1 inside)] at found
    exact short.enclosing index step ((encloses_append_left inside).mp encloses) found
  · intro index step ordered closed found
    rw [List.getElem?_append_left (Nat.lt_of_le_of_lt ordered inside)] at found
    exact short.other index step ordered (mt (encloses_append_left inside).mpr closed) found

theorem CutShort.append_right {depth : Nat} (short : CutShort limit second last part)
    (deep : ∀ step ∈ first, depth ≤ step.depth)
    (head : ∀ step, second.head? = some step → step.depth = depth) (inside : last < second.length) :
    CutShort limit (first ++ second) (first.length + last) (first ++ part) := by
  refine ⟨by rw [List.length_append, short.length, Nat.add_assoc], ?_, ?_⟩
  · intro index step encloses found
    rcases Nat.lt_or_ge index first.length with earlier | later
    · exact absurd encloses (not_encloses_append deep head inside earlier)
    · obtain ⟨index, rfl⟩ := Nat.exists_eq_add_of_le later
      rw [List.getElem?_append_right later, Nat.add_sub_cancel_left] at found ⊢
      exact short.enclosing index step (encloses_append_right.mp encloses) found
  · intro index step ordered closed found
    rcases Nat.lt_or_ge index first.length with earlier | later
    · rw [List.getElem?_append_left earlier] at found ⊢
      exact found
    · obtain ⟨index, rfl⟩ := Nat.exists_eq_add_of_le later
      rw [List.getElem?_append_right later, Nat.add_sub_cancel_left] at found ⊢
      exact short.other index step (Nat.le_of_add_le_add_left ordered) (mt encloses_append_right.mpr closed) found

theorem cutShort_head {step : Step} {rest : List Step} :
    CutShort limit (step :: rest) 0 [{ step with verdict := .failed (.limitExceeded limit) }] := by
  refine ⟨rfl, ?_, ?_⟩
  · rintro index first ⟨ordered, _⟩ found
    obtain rfl := Nat.le_zero.mp ordered
    cases found
    rfl
  · intro index first ordered closed found
    obtain rfl := Nat.le_zero.mp ordered
    exact absurd ⟨Nat.le_refl _, fun _ _ _ behind before => absurd behind (Nat.not_lt_of_le before)⟩ closed

theorem CutShort.enter {step : Step} (short : CutShort limit second last part)
    (deep : ∀ other ∈ second, step.depth < other.depth) :
    CutShort limit (step :: second) (last + 1)
      ({ step with verdict := .failed (.limitExceeded limit) } :: part) := by
  refine ⟨by rw [List.length_cons, short.length], ?_, ?_⟩
  · intro index other open' found
    cases index with
    | zero =>
      cases found
      rfl
    | succ index => exact short.enclosing index other (encloses_cons.mp open') found
  · intro index other ordered closed found
    cases index with
    | zero => exact absurd (encloses_head deep) closed
    | succ index => exact short.other index other (Nat.le_of_succ_le_succ ordered) (mt encloses_cons.mpr closed) found

end Cutting

end Proofs
end Peg
