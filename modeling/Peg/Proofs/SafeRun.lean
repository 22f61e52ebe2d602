import Peg.Proofs.Activity
import Peg.Proofs.Drafting
import Peg.Proofs.Termination

/-! What sealing is good for. A grammar that was sealed from a draft is looked at without a check: every node that
is asked for exists, every slot that is written to exists, and no level is left that was not entered. All
three hold of every call of every run, whether or not it returns. -/

namespace Peg.Proofs

/-- A call that asks for a node of the grammar, writes to no slot but one of the state, and leaves no level
that it has not entered. -/
structure SafeCall (setting : Setting) (callee : Nat) (entry : State) : Prop where
  known : callee < setting.grammar.size
  written : ∀ {inner slot span after}, setting.grammar.node? callee = some (.capture inner slot) →
    Returns setting inner (entry.enter callee).descend (some span) after → slot < after.captures.size
  entered : ∀ {node fuel result after}, Eval.node setting (eval setting fuel) callee node
    (entry.enter callee).descend = .ok (result, after) → 0 < after.depth
  halted : ∀ {fuel halt}, eval setting fuel callee entry = .error halt → halt = .outOfFuel

section Calls
variable {setting : Setting} {task : Task} {state after entry : State} {id callee : Nat} {result : Option Span}
  {property : State → Prop}

theorem Returns.keeps (kept : Kept setting property) (returned : Returns setting id state result after)
    (holds : property state) : property after := by
  obtain ⟨_, evaluation⟩ := returned.evaluates
  exact evaluation.keeps kept holds

theorem Calls.keeps (kept : Kept setting property) (called : Calls setting task state callee entry)
    (holds : property state) : property entry := by
  induction called with
  | self => exact holds
  | entered _ _ _ _ ih => exact ih (kept.descend (kept.enter _ holds))
  | sequence_right first _ ih | times_next first _ ih | span_next first _ _ ih => exact ih (first.keeps kept holds)
  | choice_right first _ ih => exact ih (kept.rewind _ (first.keeps kept holds))
  | sequence_left _ ih | choice_left _ ih | negate _ ih | optional _ ih | times _ ih
  | times_first _ ih | span _ ih | span_first _ ih | capture _ ih | rule _ ih => exact ih holds

theorem Calls.known (called : Calls setting task state callee entry)
    (known : ∀ id ∈ task.nodes, id < setting.grammar.size) : callee < setting.grammar.size := by
  induction called with
  | self => exact known _ List.mem_cons_self
  | entered _ _ found _ ih => exact ih (child_known found)
  | sequence_left _ ih | choice_left _ ih =>
    exact ih (List.forall_mem_singleton.mpr (known _ List.mem_cons_self))
  | sequence_right _ _ ih | choice_right _ _ ih =>
    exact ih (List.forall_mem_singleton.mpr (known _ (List.mem_cons_of_mem _ List.mem_cons_self)))
  | negate _ ih | optional _ ih | times _ ih | times_first _ ih | times_next _ _ ih | span _ ih | span_first _ ih
  | span_next _ _ _ ih | capture _ ih | rule _ ih => exact ih known

theorem kept_slots (slots : Nat) : Kept setting fun state => state.captures.size = slots := by
  constructor
  case keep =>
    intro state slot span sized
    exact Array.size_setIfInBounds.trans sized
  all_goals intros; assumption

theorem Idle.slots (idle : Idle setting state) : state.captures.size = setting.grammar.captureNames.size := by
  induction idle with
  | initial trace _ => exact Array.size_replicate
  | returned _ ran ih => exact ran.keeps (kept_slots _) ih

theorem Calls.safe {start : State} {caller : Nat} (coherent : setting.grammar.Coherent) (idle : Idle setting start)
    (known : caller < setting.grammar.size) (called : Calls setting (.visit caller) start callee entry) :
    SafeCall setting callee entry := by
  have callee_known := called.known (List.forall_mem_singleton.mpr known)
  have sized := called.keeps (kept_slots _) idle.slots
  have sound := called.sound idle.sound
  refine ⟨callee_known, ?_, ?_, eval_error callee_known⟩
  · intro inner slot span after found returned
    have same := returned.keeps (kept_slots _) sized
    exact same ▸ coherent.lawful callee _ found
  · intro node fuel result after answered
    have rollback := (evaluates_of_node answered).rollback ⟨sound.inside, sound.explained⟩
    exact rollback.depth ▸ Nat.succ_pos entry.depth

end Calls

/-- A draft is sealed if and only if its root exists and each slot has a node that refers to nothing outside and,
unless it is a rule, to nothing behind it. If only a slot is at fault, the first such slot is reported, and it is
reported as undefined if and only if it is a rule without a body. What was sealed repeats nothing zero times, has
a slot for every capture and no name twice, and each call of each of its runs is safe. -/
theorem seal_exact_and_calls_safe :
    (∀ (draft : Draft) (root : Nat),
      ((∃ grammar, draft.seal root = .ok grammar) ↔ root < draft.size ∧ draft.Sealable) ∧
      ∀ error, root < draft.size → draft.seal root = .error error → ∃ place slot, draft.FirstFault place slot ∧
        slot.Refused draft.size place error ∧ ∀ name, error = .undefined name ↔ slot = .declared name none) ∧
    ∀ grammar : Grammar, grammar.Drafted → grammar.Coherent ∧
      ∀ scalars limits start caller callee entry, Idle ⟨grammar, scalars, limits⟩ start → caller < grammar.size →
        Calls ⟨grammar, scalars, limits⟩ (.visit caller) start callee entry →
          SafeCall ⟨grammar, scalars, limits⟩ callee entry := by
  constructor
  · intro draft root
    constructor
    · constructor
      · rintro ⟨grammar, built⟩
        obtain ⟨inside, sealedAs⟩ := sealedAs_of_seal built
        exact ⟨inside, sealedAs.sealable⟩
      · rintro ⟨inside, sealable⟩
        rcases seal_cases inside with ⟨grammar, built, _⟩ | ⟨_, place, slot, _, fault, _⟩
        · exact ⟨grammar, built⟩
        · exact absurd (sealable place slot fault.placed) fault.faulty
    · intro error inside failed
      rcases seal_cases inside with ⟨_, built, _⟩ | ⟨other, place, slot, again, fault, refused⟩
      · cases failed.symm.trans built
      · cases failed.symm.trans again
        exact ⟨place, slot, fault, refused, refused.undefined_iff⟩
  · intro grammar drafted
    refine ⟨drafted.coherent, ?_⟩
    intro scalars limits start caller callee entry idle known called
    exact called.safe drafted.coherent idle known

/-- The rule without a body is reported, and not the sequence behind it, which refers to nothing. The capture is
called by the rule that names it. -/
theorem unbound_rule_refused_and_capture_safe :
    let faulty := Draft.perform {} [.literal "a" .sensitive, .declare "row", .sequence 0 7]
    let operations : List Draft.Operation := [.literal "a" .sensitive, .capture 0 "letter", .rule "row" 1]
    (∃ place, 0 < faulty.size ∧ faulty.seal 0 = .error (.undefined "row") ∧
      faulty.FirstFault place (.declared "row" none)) ∧
    ∃ grammar entry span after, (Draft.perform {} operations).seal 2 = .ok grammar ∧
      Idle ⟨grammar, #['a'], {}⟩ (State.initial grammar 0 none) ∧
      Calls ⟨grammar, #['a'], {}⟩ (.visit 2) (State.initial grammar 0 none) 1 entry ∧
      Returns ⟨grammar, #['a'], {}⟩ 0 (entry.enter 1).descend (some span) after ∧ 0 < after.captures.size := by
  intro faulty operations
  constructor
  · have failed : faulty.seal 0 = .error (.undefined "row") := rfl
    obtain ⟨place, slot, fault, _, undefined⟩ :=
      (seal_exact_and_calls_safe.1 faulty 0).2 (.undefined "row") (by decide) failed
    obtain rfl := (undefined "row").mp rfl
    exact ⟨place, by decide, failed, fault⟩
  · have answers : ((Draft.perform {} operations).seal 2).toOption.any (fun grammar =>
        let start := ((State.initial grammar 0 none).enter 2).descend
        (Setting.evaluate ⟨grammar, #['a'], {}⟩ 0 (start.enter 1).descend).toOption.any (·.1.isSome)) = true := by
      decide +kernel
    obtain ⟨grammar, built, answers⟩ := ok_of_any answers
    obtain ⟨⟨result, after⟩, answer, found⟩ := ok_of_any answers
    obtain ⟨span, rfl⟩ : ∃ span, result = some span := Option.isSome_iff_exists.mp found
    have nodes := (sealedAs_of_seal built).2
    have slots : (Draft.perform {} operations).slots =
        #[.ready (.literal "a" .sensitive), .ready (.capture 0 0), .ready (.rule "row" 1)] := by
      with_unfolding_all rfl
    obtain ⟨_, ⟨⟩, row⟩ := nodes.node (congrArg (·[2]?) slots)
    obtain ⟨_, ⟨⟩, letter⟩ := nodes.node (congrArg (·[1]?) slots)
    let setting : Setting := ⟨grammar, #['a'], {}⟩
    let entry := ((State.initial grammar 0 none).enter 2).descend
    have idle : Idle setting (State.initial grammar 0 none) := .initial none (Nat.zero_le _)
    have called : Calls setting (.visit 2) (State.initial grammar 0 none) 1 entry :=
      .entered rfl rfl row (.rule .self)
    have returned : Returns setting 0 (entry.enter 1).descend (some span) after := ⟨_, answer⟩
    have known : 2 < grammar.size := (Array.getElem?_eq_some_iff.mp row).1
    have safe := (seal_exact_and_calls_safe.2 grammar (.sealed built)).2 _ _ _ _ _ _ idle known called
    exact ⟨grammar, entry, span, after, built, idle, called, returned, safe.written letter returned⟩

end Peg.Proofs
