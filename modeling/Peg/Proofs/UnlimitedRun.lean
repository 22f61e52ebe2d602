import Mathlib.Data.Finset.Prod
import Mathlib.Order.Monotone.Basic
import Peg.Matching.Run
import Peg.Proofs.DerivationRun

/-! A run without limits returns what is derivable, and nothing else. The fuel of such a run is a
number of pairs of a node and a position, so it has to be shown that no result needs more height:
the pairs with a result are settled as soon as one more level of height adds none. -/

namespace Peg.Proofs

theorem room_unlimited (height depth : Nat) : Room .unlimited height depth := ⟨rfl, .inl rfl⟩

section Heights
variable {grammar : Grammar} {scalars : Array Char}

theorem Derives.unique {height other id position : Nat} {stop stop' : Option Nat}
    (derived : Derives .progress grammar scalars height (.node id) position stop)
    (again : Derives .progress grammar scalars other (.node id) position stop')
    (inside : position ≤ scalars.size) : stop = stop' := by
  let setting : Setting := ⟨grammar, scalars, .unlimited⟩
  have ready : Ready setting (max height other) position _ :=
    ready_initial none inside (room_unlimited _ _)
  obtain ⟨after, one, _⟩ := (derived.mono (Nat.le_max_left height other)).answer ready
  obtain ⟨after', two, _⟩ := (again.mono (Nat.le_max_right height other)).answer ready
  have same := (Prod.mk.inj (Except.ok.inj (one.symm.trans two))).1
  exact Option.map_injective (fun _ _ equal => (Span.mk.inj equal).2) same

theorem Derives.known {rule : SpanRule} {height id position : Nat} {stop : Option Nat}
    (derived : Derives rule grammar scalars height (.node id) position stop) : id < grammar.size := by
  have present : ∃ node, grammar.node? id = some node := by
    cases derived <;> exact ⟨_, by assumption⟩
  obtain ⟨node, found⟩ := present
  exact (Array.getElem?_eq_some_iff.mp found).1

/-- Whether a goal adds a level of its own to those of the nodes below it. -/
def Goal.levels : Goal → Nat
  | .node _ => 1
  | .times _ _ | .span _ => 0

/-- When a level of height adds no result, the next one adds none either. -/
theorem Derives.lower {height level position : Nat} {goal : Goal} {stop : Option Nat}
    (settled : ∀ id position stop, position ≤ scalars.size →
      Derives .progress grammar scalars (level + 1) (.node id) position stop →
      Derives .progress grammar scalars level (.node id) position stop)
    (derived : Derives .progress grammar scalars height goal position stop)
    (inside : position ≤ scalars.size) (levels : height = level + 1 + goal.levels) :
    Derives .progress grammar scalars (level + goal.levels) goal position stop := by
  induction derived with
  | literal found spelled => exact .literal found spelled
  | literal_fail found different => exact .literal_fail found different
  | checker found seen passed => exact .checker found seen passed
  | checker_fail found refused => exact .checker_fail found refused
  | sequence found first second =>
    cases levels
    exact .sequence found (settled _ _ _ inside first) (settled _ _ _ (first.inside inside _ rfl) second)
  | sequence_fail found first =>
    cases levels
    exact .sequence_fail found (settled _ _ _ inside first)
  | choice_left found first =>
    cases levels
    exact .choice_left found (settled _ _ _ inside first)
  | choice_right found first second =>
    cases levels
    exact .choice_right found (settled _ _ _ inside first) (settled _ _ _ inside second)
  | negate found failed =>
    cases levels
    exact .negate found (settled _ _ _ inside failed)
  | negate_fail found matched =>
    cases levels
    exact .negate_fail found (settled _ _ _ inside matched)
  | optional found matched =>
    cases levels
    exact .optional found (settled _ _ _ inside matched)
  | optional_empty found failed =>
    cases levels
    exact .optional_empty found (settled _ _ _ inside failed)
  | times found _ ih =>
    cases levels
    exact .times found (ih inside rfl)
  | times_done => exact .times_done
  | times_fail first =>
    cases levels
    exact .times_fail (settled _ _ _ inside first)
  | times_next first _ _ ih =>
    have rest := ih (first.inside inside _ rfl) levels
    cases levels
    exact .times_next (settled _ _ _ inside first) rest
  | span found _ ih =>
    cases levels
    exact .span found (ih inside rfl)
  | span_end failed =>
    cases levels
    exact .span_end (settled _ _ _ inside failed)
  | span_still progress still =>
    cases levels
    exact .span_still progress (settled _ _ _ inside still)
  | span_next first moved _ _ ih =>
    have rest := ih (first.inside inside _ rfl) levels
    cases levels
    exact .span_next (settled _ _ _ inside first) moved rest
  | capture found result =>
    cases levels
    exact .capture found (settled _ _ _ inside result)
  | rule found body =>
    cases levels
    exact .rule found (settled _ _ _ inside body)

open Classical in
/-- The pairs of a node and a position that have a result at a height. -/
noncomputable def resolved (grammar : Grammar) (scalars : Array Char) (height : Nat) :
    Finset (Nat × Nat) :=
  (Finset.range grammar.size ×ˢ Finset.range (scalars.size + 1)).filter fun pair =>
    ∃ stop, Derives .progress grammar scalars height (.node pair.1) pair.2 stop

theorem mem_resolved {height id position : Nat} (inside : position ≤ scalars.size) :
    (id, position) ∈ resolved grammar scalars height ↔
      ∃ stop, Derives .progress grammar scalars height (.node id) position stop := by
  simp only [resolved, Finset.mem_filter, Finset.mem_product, Finset.mem_range]
  constructor
  · intro member
    exact member.2
  · rintro ⟨stop, derived⟩
    exact ⟨⟨derived.known, Nat.lt_succ_of_le inside⟩, stop, derived⟩

theorem resolved_subset {height more : Nat} (most : height ≤ more) :
    resolved grammar scalars height ⊆ resolved grammar scalars more := by
  intro pair member
  simp only [resolved, Finset.mem_filter] at member ⊢
  obtain ⟨inside, stop, derived⟩ := member
  exact ⟨inside, stop, derived.mono most⟩

theorem card_resolved_le (height : Nat) :
    (resolved grammar scalars height).card ≤ grammar.size * (scalars.size + 1) := by
  classical
  apply (Finset.card_filter_le _ _).trans
  simp only [Finset.card_product, Finset.card_range, Nat.le_refl]

theorem Derives.settle {height more id position : Nat} {stop : Option Nat}
    (same : resolved grammar scalars height = resolved grammar scalars more)
    (inside : position ≤ scalars.size)
    (derived : Derives .progress grammar scalars more (.node id) position stop) :
    Derives .progress grammar scalars height (.node id) position stop := by
  have member := (mem_resolved inside).mpr ⟨stop, derived⟩
  rw [← same] at member
  obtain ⟨stop', lower⟩ := (mem_resolved inside).mp member
  rwa [derived.unique lower inside]

theorem Derives.bounded {height id position : Nat} {stop : Option Nat}
    (derived : Derives .progress grammar scalars height (.node id) position stop)
    (inside : position ≤ scalars.size) :
    Derives .progress grammar scalars (grammar.size * (scalars.size + 1)) (.node id) position stop := by
  have grows : Monotone fun height => (resolved grammar scalars height).card := by
    intro low high most
    exact Finset.card_le_card (resolved_subset most)
  -- A level that adds no pair leaves the next one nothing to build on, so the growth ends for good.
  have stays : ∀ level, (resolved grammar scalars level).card = (resolved grammar scalars (level + 1)).card →
      (resolved grammar scalars (level + 1)).card = (resolved grammar scalars (level + 2)).card := by
    intro level equal
    have same := Finset.eq_of_subset_of_card_le (resolved_subset (Nat.le_succ level)) (Nat.le_of_eq equal.symm)
    apply Nat.le_antisymm (grows (Nat.le_succ _))
    apply Finset.card_le_card
    rintro ⟨id, position⟩ member
    have inside : position ≤ scalars.size := by
      simp only [resolved, Finset.mem_filter, Finset.mem_product, Finset.mem_range] at member
      omega
    obtain ⟨stop, derived⟩ := (mem_resolved inside).mp member
    exact (mem_resolved inside).mpr
      ⟨stop, derived.lower (fun _ _ _ inside derived => derived.settle same inside) inside rfl⟩
  have limit := Nat.stabilises_of_monotone grows card_resolved_le stays
    (Nat.le_max_left (grammar.size * (scalars.size + 1)) height)
  have same := Finset.eq_of_subset_of_card_le (resolved_subset (Nat.le_max_left _ height)) (Nat.le_of_eq limit)
  exact (derived.mono (Nat.le_max_right _ height)).settle same inside

end Heights

theorem Returns.derivable {grammar : Grammar} {scalars : Array Char} {id : Nat} {state after : State}
    {result : Option Span} (returned : Returns ⟨grammar, scalars, .unlimited⟩ id state result after)
    (sound : Sound ⟨grammar, scalars, .unlimited⟩ state) (running : state.aborted = false) :
    Derivable .progress grammar scalars id state.position (result.map Span.stop) := by
  obtain ⟨height, evaluation⟩ := returned.evaluates
  exact ⟨height, evaluation.derived sound (evaluation.stays_running (fun _ _ => rfl) running)⟩

theorem Derivable.runs {grammar : Grammar} {id : Nat} {source : Source} {stop : Option Nat}
    (derivable : Derivable .progress grammar source.scalars id source.position stop)
    (trace : Option Trace) : ∃ run, grammar.runWith .unlimited id source trace = .ok run ∧
      run.result = stop.map (Span.mk source.position) := by
  obtain ⟨_, derived⟩ := derivable
  obtain ⟨after, _, _, ran⟩ :=
    (derived.bounded source.position_le).succ.run (room_unlimited _ _) (Nat.le_refl _) trace
  exact ⟨_, ran, rfl⟩

theorem runs_iff {grammar : Grammar} {id : Nat} {source : Source} (trace : Option Trace)
    (stop : Option Nat) :
    (∃ run, grammar.runWith .unlimited id source trace = .ok run ∧
      run.result = stop.map (Span.mk source.position)) ↔
      Derivable .progress grammar source.scalars id source.position stop := by
  constructor
  · rintro ⟨run, ran, result⟩
    have derivable := (returns_of_runWith ran).derivable (sound_initial _ source.position_le trace) rfl
    have same : stop.map (Span.stop ∘ Span.mk source.position) = stop := by cases stop <;> rfl
    rwa [result, Option.map_map, same] at derivable
  · intro derivable
    exact derivable.runs trace

/-- The evaluator is exactly the matching of parsing expressions: without limits a run ends in a
match or a failure if and only if that is derivable, and where the textbook has a result at all, the
progress rule does not change it. -/
theorem run_iff_derivable (grammar : Grammar) (id : Nat) (source : Source) (trace : Option Trace) :
    (∀ stop, (∃ run, grammar.runWith .unlimited id source trace = .ok run ∧
        run.result = some ⟨source.position, stop⟩) ↔
      Derivable .progress grammar source.scalars id source.position (some stop)) ∧
    ((∃ run, grammar.runWith .unlimited id source trace = .ok run ∧ run.result = none) ↔
      Derivable .progress grammar source.scalars id source.position none) ∧
    ∀ stop, Derivable .textbook grammar source.scalars id source.position stop →
      ∃ run, grammar.runWith .unlimited id source trace = .ok run ∧
        run.result = stop.map (Span.mk source.position) := by
  refine ⟨fun stop => runs_iff trace (some stop), runs_iff trace none, ?_⟩
  rintro stop ⟨height, derived⟩
  exact Derivable.runs ⟨height, derived.progress⟩ trace

end Peg.Proofs
