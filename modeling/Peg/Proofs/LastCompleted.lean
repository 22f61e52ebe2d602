import Peg.Proofs.TraceLog

/-! Which step of a log was completed last. A step is written when its node is entered and completed when the
node is left, so the log has the steps in another order than the one in which they were completed. A
value that every completed step may overwrite is in the end that of the last one that did. -/

namespace Peg.Proofs

/-- The first step is completed before the second one: it is over when that begins, or it is a part of it. -/
def CompletedBefore (steps : List Step) (first second : Nat) : Prop :=
  (first < second ∧ ¬ Encloses steps first second) ∨ (second < first ∧ Encloses steps second first)

/-- The step at an index recorded a value, and all others that recorded one were completed before it. -/
structure LastCompleted {α : Type} (record : Step → Option α) (steps : List Step) (index : Nat) (value : α) :
    Prop where
  recorded : ∃ step, steps[index]? = some step ∧ record step = some value
  others : ∀ other step, steps[other]? = some step → record step ≠ none → other ≠ index →
    CompletedBefore steps other index

/-- What is kept after the steps: the record of the last one that was completed, or what was kept before. -/
inductive Retained {α : Type} (record : Step → Option α) (steps : List Step) (before : Option α) :
    Option α → Prop where
  | written {index value} (last : LastCompleted record steps index value) :
      Retained record steps before (some value)
  | unwritten (silent : ∀ step ∈ steps, record step = none) : Retained record steps before before

section Order
variable {steps first second : List Step} {one two : Nat}

theorem CompletedBefore.append_left (before : CompletedBefore first one two) (inside : one < first.length)
    (inside' : two < first.length) : CompletedBefore (first ++ second) one two := by
  rcases before with ⟨ordered, closed⟩ | ⟨ordered, encloses⟩
  · exact .inl ⟨ordered, mt (encloses_append_left inside').mp closed⟩
  · exact .inr ⟨ordered, (encloses_append_left inside).mpr encloses⟩

theorem CompletedBefore.append_right (before : CompletedBefore second one two) :
    CompletedBefore (first ++ second) (first.length + one) (first.length + two) := by
  rcases before with ⟨ordered, closed⟩ | ⟨ordered, encloses⟩
  · exact .inl ⟨Nat.add_lt_add_left ordered _, mt encloses_append_right.mp closed⟩
  · exact .inr ⟨Nat.add_lt_add_left ordered _, encloses_append_right.mpr encloses⟩

theorem CompletedBefore.cons {step : Step} (before : CompletedBefore steps one two) :
    CompletedBefore (step :: steps) (one + 1) (two + 1) := by
  rcases before with ⟨ordered, closed⟩ | ⟨ordered, encloses⟩
  · exact .inl ⟨Nat.succ_lt_succ ordered, mt encloses_cons.mp closed⟩
  · exact .inr ⟨Nat.succ_lt_succ ordered, encloses_cons.mpr encloses⟩

theorem CompletedBefore.asymm (before : CompletedBefore steps one two) : ¬ CompletedBefore steps two one := by
  rintro (⟨ordered, closed⟩ | ⟨ordered, encloses⟩)
  · rcases before with ⟨ordered', _⟩ | ⟨_, encloses⟩
    · exact Nat.lt_asymm ordered ordered'
    · exact closed encloses
  · rcases before with ⟨_, closed⟩ | ⟨ordered', _⟩
    · exact closed encloses
    · exact Nat.lt_asymm ordered ordered'

theorem completedBefore_head {step : Step} (deep : ∀ other ∈ steps, step.depth < other.depth) (index : Nat) :
    CompletedBefore (step :: steps) (index + 1) 0 :=
  .inr ⟨Nat.succ_pos index, encloses_head deep⟩

end Order

section Records
variable {α : Type} {record : Step → Option α} {steps first second : List Step} {index : Nat} {value : α}
  {before middle after : Option α}

theorem LastCompleted.append_left (last : LastCompleted record first index value)
    (silent : ∀ step ∈ second, record step = none) : LastCompleted record (first ++ second) index value := by
  obtain ⟨step, found, recorded⟩ := last.recorded
  have inside : index < first.length := (List.getElem?_eq_some_iff.mp found).1
  refine ⟨⟨step, by rwa [List.getElem?_append_left inside], recorded⟩, ?_⟩
  intro other step found records distinct
  rcases Nat.lt_or_ge other first.length with earlier | later
  · rw [List.getElem?_append_left earlier] at found
    exact (last.others other step found records distinct).append_left earlier inside
  · rw [List.getElem?_append_right later] at found
    exact absurd (silent step (List.mem_of_getElem? found)) records

theorem LastCompleted.append_right {depth : Nat} (last : LastCompleted record second index value)
    (deep : ∀ step ∈ first, depth ≤ step.depth) (head : ∀ step, second.head? = some step → step.depth = depth) :
    LastCompleted record (first ++ second) (first.length + index) value := by
  obtain ⟨step, found, recorded⟩ := last.recorded
  have inside : index < second.length := (List.getElem?_eq_some_iff.mp found).1
  refine ⟨⟨step, ?_, recorded⟩, ?_⟩
  · rwa [List.getElem?_append_right (Nat.le_add_right _ _), Nat.add_sub_cancel_left]
  · intro other step found records distinct
    rcases Nat.lt_or_ge other first.length with earlier | later
    · exact .inl ⟨Nat.lt_add_right index earlier, not_encloses_append deep head inside earlier⟩
    · obtain ⟨other, rfl⟩ := Nat.exists_eq_add_of_le later
      rw [List.getElem?_append_right later, Nat.add_sub_cancel_left] at found
      exact (last.others other step found records (mt (congrArg _) distinct)).append_right

theorem LastCompleted.cons {step : Step} (last : LastCompleted record steps index value)
    (silent : record step = none) : LastCompleted record (step :: steps) (index + 1) value := by
  refine ⟨last.recorded, ?_⟩
  intro other step' found records distinct
  cases other with
  | zero =>
    cases found
    exact absurd silent records
  | succ other => exact (last.others other step' found records (mt (congrArg _) distinct)).cons

theorem lastCompleted_head {step : Step} (deep : ∀ other ∈ steps, step.depth < other.depth)
    (recorded : record step = some value) : LastCompleted record (step :: steps) 0 value := by
  refine ⟨⟨step, rfl, recorded⟩, ?_⟩
  intro other _ _ _ distinct
  obtain ⟨other, rfl⟩ := Nat.exists_eq_succ_of_ne_zero distinct
  exact completedBefore_head deep other

theorem LastCompleted.unique {other : Nat} {value' : α} (last : LastCompleted record steps index value)
    (last' : LastCompleted record steps other value') : value = value' := by
  obtain ⟨step, found, recorded⟩ := last.recorded
  obtain ⟨step', found', recorded'⟩ := last'.recorded
  by_cases same : index = other
  · rw [same, found'] at found
    cases found
    exact Option.some.inj (recorded.symm.trans recorded')
  · have before := last'.others index step found (recorded ▸ Option.some_ne_none value) same
    have after := last.others other step' found' (recorded' ▸ Option.some_ne_none value') (Ne.symm same)
    exact absurd after before.asymm

theorem retained_nil : Retained record [] before before :=
  .unwritten nofun

theorem Retained.append {start halfway last : State} (earlier : Retained record first before middle)
    (later : Retained record second middle after) (logged : Logged start first halfway)
    (logged' : Logged halfway second last) : Retained record (first ++ second) before after := by
  -- The first steps count only where none of the second ones has recorded anything.
  cases later with
  | written last =>
    have level : ∀ step, second.head? = some step → step.depth = start.depth :=
      fun step found => (logged'.head step found).trans logged.depth
    exact .written (last.append_right logged.deep level)
  | unwritten silent =>
    cases earlier with
    | written last => exact .written (last.append_left silent)
    | unwritten silent' => exact .unwritten (List.forall_mem_append.mpr ⟨silent', silent⟩)

/-- The step of a node that is left: it keeps what it records itself, and else what its parts have left. -/
theorem Retained.visit {step : Step} (parts : Retained record steps before middle)
    (deep : ∀ other ∈ steps, step.depth < other.depth) :
    Retained record (step :: steps) before ((record step).or middle) := by
  cases recorded : record step with
  | some value => exact .written (lastCompleted_head deep recorded)
  | none =>
    cases parts with
    | written last => exact .written (last.cons recorded)
    | unwritten silent => exact .unwritten (List.forall_mem_cons.mpr ⟨recorded, silent⟩)

theorem LastCompleted.not_silent (last : LastCompleted record steps index value) :
    ¬ ∀ step ∈ steps, record step = none := by
  obtain ⟨step, found, recorded⟩ := last.recorded
  intro silent
  cases recorded.symm.trans (silent step (List.mem_of_getElem? found))

theorem Retained.latest (retained : Retained record steps none after) :
    (after = none ↔ ∀ step ∈ steps, record step = none) ∧
      ∀ value, after = some value ↔ ∃ index, LastCompleted record steps index value := by
  cases retained with
  | unwritten silent =>
    refine ⟨iff_of_true rfl silent, fun value => iff_of_false nofun ?_⟩
    rintro ⟨index, last⟩
    exact last.not_silent silent
  | @written index value last =>
    refine ⟨iff_of_false nofun last.not_silent, fun other => ?_⟩
    constructor
    · intro same
      exact ⟨index, Option.some.inj same ▸ last⟩
    · rintro ⟨index', last'⟩
      exact congrArg some (last.unique last')

end Records

end Peg.Proofs
