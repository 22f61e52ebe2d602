import Peg.Proofs.Drafting
import Peg.Proofs.Lockstep

/-! A draft that can be sealed has a meaning that no later work on it changes. New slots and new names are added
behind the old ones, and the only slot that is ever written again is that of a rule without a body, of which
there is none. What an old node is made of is old too, so a run from it never comes upon the new nodes, and
does in both grammars the same. -/

namespace Peg

namespace Draft

def Bound (draft : Draft) : Prop :=
  ∀ (place : Nat) (name : String), draft.slots[place]? ≠ some (.declared name none)

def Holds (draft : Draft) (id : Nat) (node : Node) : Prop := draft.slots[id]? = some (.ready node)

/-- The slots and the names of the one draft stand at the same places in the other. -/
structure Extends (draft later : Draft) : Prop where
  slots : ∀ {place : Nat} {slot : Slot}, draft.slots[place]? = some slot → later.slots[place]? = some slot
  names : ∀ {place : Nat} {name : String}, draft.captureNames[place]? = some name →
    later.captureNames[place]? = some name

end Draft

/-- A run tells what another one tells, and nothing in the slots from this one on. -/
structure Run.Agrees (slots : Nat) (run later : Run) : Prop where
  matched : later.outcome.matched = run.outcome.matched
  position : later.outcome.position = run.outcome.position
  failure : later.outcome.failure = run.outcome.failure
  trace : later.final.trace = run.final.trace
  captures : ∀ slot, slot < slots → later.outcome.capture? slot = run.outcome.capture? slot
  unset : ∀ slot, slots ≤ slot → later.outcome.capture? slot = none

namespace Proofs
open Draft

section Drafts
variable {draft middle later : Draft} {grammar other : Grammar} {root root' id : Nat} {node : Node}

theorem extends_refl (draft : Draft) : draft.Extends draft := ⟨id, id⟩

theorem getElem?_push_of_some {α : Type} {items : Array α} {place : Nat} {item : α}
    (found : items[place]? = some item) (last : α) : (items.push last)[place]? = some item := by
  have inside := (Array.getElem?_eq_some_iff.mp found).1
  rw [Array.getElem?_push, if_neg (Nat.ne_of_lt inside), found]

/-- A rule that waits for its body is none of the slots that a bound draft had. -/
theorem extends_change (bound : draft.Bound) (extended : draft.Extends middle) (change : middle.Change later) :
    draft.Extends later := by
  cases change with
  | append _ => exact ⟨fun found => getElem?_push_of_some (extended.slots found) _, extended.names⟩
  | name _ => exact ⟨extended.slots, fun found => getElem?_push_of_some (extended.names found) _⟩
  | @bind place name body waiting =>
    refine ⟨?_, extended.names⟩
    intro kept slot found
    have differs : place ≠ kept := by
      rintro rfl
      obtain rfl : slot = .declared name none := Option.some.inj ((extended.slots found).symm.trans waiting)
      exact bound place name found
    exact (Array.getElem?_setIfInBounds_ne differs).trans (extended.slots found)

theorem extends_evolves (bound : draft.Bound) (evolves : draft.Evolves later) : draft.Extends later := by
  induction evolves with
  | refl => exact extends_refl draft
  | tail _ change ih => exact extends_change bound ih change

theorem bound_of_sealedAs (sealedAs : draft.SealedAs grammar) : draft.Bound := by
  intro place name found
  exact (sealedAs.sealable place _ found).bound name rfl

theorem node_of_extends (extended : draft.Extends later) (sealedAs : draft.SealedAs grammar)
    (sealedAs' : later.SealedAs other) {id : Nat} {node : Node} (found : grammar.node? id = some node) :
    other.node? id = some node := by
  obtain ⟨slot, placed, resolved⟩ := slot_of_sealedAs sealedAs found
  obtain ⟨_, resolved', again⟩ := sealedAs'.node (extended.slots placed)
  cases resolved.symm.trans resolved'
  exact again

theorem captureName?_of_extends (extended : draft.Extends later) (sealedAs : draft.SealedAs grammar)
    (sealedAs' : later.SealedAs other) {slot : Nat} (known : slot < grammar.captureNames.size) :
    other.captureName? slot = grammar.captureName? slot := by
  rw [sealedAs.names] at known
  have named := extended.names (Array.getElem?_eq_getElem known)
  rw [Grammar.captureName?, Grammar.captureName?, sealedAs.names, sealedAs'.names, named,
    Array.getElem?_eq_getElem known]

theorem captureNames_le (extended : draft.Extends later) (sealedAs : draft.SealedAs grammar)
    (sealedAs' : later.SealedAs other) : grammar.captureNames.size ≤ other.captureNames.size := by
  apply Nat.le_of_not_lt
  intro fewer
  have named := captureName?_of_extends extended sealedAs sealedAs' fewer
  have none : other.captureName? other.captureNames.size = none := Array.getElem?_eq_none (Nat.le_refl _)
  have found : grammar.captureName? other.captureNames.size = some _ := Array.getElem?_eq_getElem fewer
  cases (none.symm.trans named).trans found

theorem holds_change (holds : draft.Holds id node) (change : draft.Change later) : later.Holds id node := by
  cases change with
  | append _ => exact getElem?_push_of_some holds _
  | name _ => exact holds
  | @bind place name body waiting =>
    have differs : place ≠ id := by
      rintro rfl
      cases waiting.symm.trans holds
    exact (Array.getElem?_setIfInBounds_ne differs).trans holds

theorem holds_evolves (holds : draft.Holds id node) (evolves : draft.Evolves later) : later.Holds id node := by
  induction evolves with
  | refl => exact holds
  | tail _ change ih => exact holds_change ih change

theorem node?_of_holds (holds : draft.Holds id node) (sealedAs : draft.SealedAs grammar) :
    grammar.node? id = some node := by
  obtain ⟨_, resolved, found⟩ := sealedAs.node holds
  cases resolved
  exact found

end Drafts

/-- The same state with so many more slots, all of them empty. -/
inductive Widened (slots more : Nat) : State → State → Prop where
  | intro {state : State} (sized : state.captures.size = slots) :
      Widened slots more state { state with captures := state.captures ++ Array.replicate more none }

section Runs
variable {grammar later : Grammar} {slots more slot : Nat} {state twin : State}

theorem Widened.keep (widened : Widened slots more state twin) (inside : slot < slots) (span : Span) :
    Widened slots more (state.keep slot span) (twin.keep slot span) := by
  obtain ⟨rfl⟩ := widened
  have kept : Widened state.captures.size more (state.keep slot span) _ := .intro Array.size_setIfInBounds
  simpa only [State.keep, Array.setIfInBounds_append_left inside] using kept

theorem lockstep_widened (kept : ∀ {id node}, grammar.node? id = some node → later.node? id = some node)
    (coherent : grammar.Coherent) (scalars : Array Char) (limits : Limits) (more : Nat) :
    Lockstep ⟨grammar, scalars, limits⟩ ⟨later, scalars, limits⟩ 0 (· < grammar.size)
      (Widened grammar.captureNames.size more) where
  node _ := kept
  child _ found := child_known found
  scalars _ := rfl
  position | .intro _ => rfl
  aborted | .intro _ => rfl
  within | .intro _, below => below
  rewind | _, .intro sized => .intro sized
  fail | _, _, .intro sized => .intro sized
  keep span _ found widened := widened.keep (coherent.lawful _ _ found) span
  enter | _, .intro sized => .intro sized
  leave | result, .intro _, .intro sized => (shift_zero result).symm ▸ .intro sized
  descend | .intro sized => .intro sized
  ascend | .intro sized => .intro sized

theorem aborts_widened (scalars : Array Char) (limits : Limits) (slots more : Nat) :
    AbortsAlike ⟨grammar, scalars, limits⟩ ⟨later, scalars, limits⟩ (Widened slots more) where
  beyond | .intro _, beyond => beyond
  abort | _, _, .intro sized => .intro sized

theorem widened_initial (fewer : grammar.captureNames.size ≤ later.captureNames.size) (position : Nat)
    (trace : Option Trace) : Widened grammar.captureNames.size (later.captureNames.size - grammar.captureNames.size)
      (State.initial grammar position trace) (State.initial later position trace) := by
  have widened : Widened grammar.captureNames.size (later.captureNames.size - grammar.captureNames.size)
    (State.initial grammar position trace) _ := .intro Array.size_replicate
  simpa only [State.initial, Array.replicate_append_replicate, Nat.add_sub_cancel' fewer] using widened

theorem agrees_of_widened {after ending : State} (widened : Widened grammar.captureNames.size more after ending)
    (named : ∀ slot, slot < grammar.captureNames.size → later.captureName? slot = grammar.captureName? slot)
    (source : Source) (id : Nat) (result : Option Span) : Run.Agrees grammar.captureNames.size
      ⟨grammar, source, id, result, after⟩ ⟨later, source, id, result, ending⟩ := by
  obtain ⟨sized⟩ := widened
  refine ⟨rfl, rfl, rfl, rfl, ?_, ?_⟩
  · intro slot inside
    rw [capture?_outcome, capture?_outcome]
    simp only [Array.getElem?_append_left (sized ▸ inside), named slot inside]
  · intro slot beyond
    rw [capture?_outcome]
    simp only [Array.getElem?_append_right (sized ▸ beyond), Array.getElem?_replicate]
    split <;> rfl

end Runs

/-- What is sealed after more operations on a draft that could be sealed before keeps the names of the slots, and
every node of the draft does in it what it did before. -/
theorem later_grammar_agrees {operations more : List Operation} {root root' : Nat} {grammar later : Grammar}
    (built : (Draft.perform {} operations).seal root = .ok grammar)
    (built' : ((Draft.perform {} operations).perform more).seal root' = .ok later) :
    (∀ slot, slot < grammar.captureNames.size → later.captureName? slot = grammar.captureName? slot) ∧
    ∀ id limits source trace, id < (Draft.perform {} operations).size →
      (grammar.runWith limits id source trace = .error .outOfFuel ∧
        later.runWith limits id source trace = .error .outOfFuel) ∨
      ∃ run run', grammar.runWith limits id source trace = .ok run ∧
        later.runWith limits id source trace = .ok run' ∧ run.Agrees grammar.captureNames.size run' := by
  obtain ⟨_, sealedAs⟩ := sealedAs_of_seal built
  obtain ⟨_, sealedAs'⟩ := sealedAs_of_seal built'
  have extended := extends_evolves (bound_of_sealedAs sealedAs) (evolves_perform _ more)
  have named := fun slot => @captureName?_of_extends _ _ _ _ extended sealedAs sealedAs' slot
  refine ⟨named, ?_⟩
  intro id limits source trace inside
  have coherent : grammar.Coherent := (coherent_perform operations).seal built
  have lockstep := fun limits => lockstep_widened (node_of_extends extended sealedAs sealedAs') coherent
    source.scalars limits (later.captureNames.size - grammar.captureNames.size)
  have initial := widened_initial (captureNames_le extended sealedAs sealedAs') source.position trace
  have known : id < grammar.size := sealedAs.size ▸ inside
  have runs := runs_in_lockstep (fun limits => ⟨lockstep limits, aborts_widened _ _ _ _⟩) known known initial limits
  refine runs.imp_right ?_
  rintro ⟨result, after, ending, ran, ran', widened⟩
  rw [shift_zero] at ran'
  exact ⟨_, _, ran, ran', agrees_of_widened widened named source id result⟩

/-- More captures of the old name and of a new one, and a body that is refused, leave the letter what it was. -/
theorem letter_outlives_later_captures :
    let operations : List Operation := [.literal "a" .sensitive, .capture 0 "letter", .rule "row" 1]
    let more : List Operation := [.define 2 0, .capture 2 "letter", .capture 3 "whole", .declare "again", .define 5 4]
    ∃ grammar later run run', (Draft.perform {} operations).seal 2 = .ok grammar ∧
      ((Draft.perform {} operations).perform more).seal 5 = .ok later ∧
      grammar.runWith {} 2 (.ofString "ab") (some {}) = .ok run ∧
      later.runWith {} 2 (.ofString "ab") (some {}) = .ok run' ∧ run.result = some ⟨0, 1⟩ ∧
      run'.outcome.matched = run.outcome.matched ∧ later.captureName? 0 = grammar.captureName? 0 ∧
      run'.outcome.capture? 1 = none := by
  intro operations more
  have answers : ((Draft.perform {} operations).seal 2).toOption.any (fun grammar =>
      (((Draft.perform {} operations).perform more).seal 5).toOption.any fun _ => grammar.captureNames.size == 1 &&
        (grammar.runWith {} 2 (.ofString "ab") (some {})).toOption.any (·.result == some ⟨0, 1⟩)) = true := by
    decide +kernel
  obtain ⟨grammar, built, answers⟩ := ok_of_any answers
  obtain ⟨later, built', answers⟩ := ok_of_any answers
  obtain ⟨single, answers⟩ := Bool.and_eq_true_iff.mp answers
  obtain ⟨run, ran, matched⟩ := ok_of_any answers
  have single : grammar.captureNames.size = 1 := eq_of_beq single
  have known : 2 < (Draft.perform {} operations).size := by decide +kernel
  obtain ⟨named, agree⟩ := later_grammar_agrees built built'
  rcases agree 2 {} (.ofString "ab") (some {}) known with ⟨failed, _⟩ | ⟨_, run', again, ran', agrees⟩
  · cases ran.symm.trans failed
  · cases ran.symm.trans again
    have kept := named 0 (Nat.lt_of_lt_of_eq Nat.zero_lt_one single.symm)
    have unset := agrees.unset 1 (Nat.le_of_eq single)
    exact ⟨grammar, later, run, run', built, built', ran, ran', eq_of_beq matched, agrees.matched, kept, unset⟩

end Proofs
end Peg
