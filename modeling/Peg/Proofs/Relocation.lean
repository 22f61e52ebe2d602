import Peg.Proofs.Compilation
import Peg.Proofs.Extension

/-! Compiling into a draft that has nodes already. What is compiled is moved behind these nodes, and nothing else
is different from compiling it alone. Where it fails, what it has left behind does no harm to them. -/

namespace Peg

/-- The node with all that it refers to moved by so many places. -/
def Node.shift (distance : Nat) : Node → Node
  | .sequence left right => .sequence (distance + left) (distance + right)
  | .choice left right => .choice (distance + left) (distance + right)
  | .negate inner => .negate (distance + inner)
  | .optional inner => .optional (distance + inner)
  | .times inner count => .times (distance + inner) count
  | .span inner => .span (distance + inner)
  | .capture inner slot => .capture (distance + inner) slot
  | .rule name target => .rule name (distance + target)
  | .literal text casing => .literal text casing
  | .checker name test => .checker name test

theorem Slot.Sealable.mono {size size' place : Nat} {slot : Slot} (sealable : slot.Sealable size place)
    (larger : size ≤ size') : slot.Sealable size' place := by
  refine ⟨sealable.bound, ?_⟩
  intro child member
  obtain ⟨inside, before⟩ := sealable.refers child member
  exact ⟨Nat.lt_of_lt_of_le inside larger, before⟩

namespace Proofs

theorem nodes_shift (expression : Expression) (distance base : Nat) :
    expression.nodes (distance + base) = (expression.nodes base).map (Node.shift distance) := by
  induction expression generalizing base with
  | literal text => rfl
  | modified inner modifier ih => cases modifier <;> simp [Expression.nodes, Node.shift, ih, Nat.add_assoc]
  | times inner count ih => simp [Expression.nodes, Node.shift, ih, Nat.add_assoc]
  | sequence left right ih ih' | choice left right ih ih' =>
    simp [Expression.nodes, Node.shift, ih, ← ih', Nat.add_assoc]

theorem run_draft_of_compile {expression : Expression} {grammar : Grammar} (draft : Draft)
    (compiled : expression.compile = .ok grammar) :
    expression.draft.run draft = (.ok (draft.size + grammar.root),
      draft.extend (grammar.nodes.toList.map (Node.shift draft.size))) ∧ grammar.root + 1 = grammar.size := by
  rcases compile_cases expression with ⟨low, repeats, _⟩ | ⟨error, failed, _⟩
  · obtain ⟨found, again, nodes, root, _⟩ := compile_eq low repeats
    cases compiled.symm.trans again
    have moved := nodes_shift expression draft.size 0
    rw [Nat.add_zero] at moved
    refine ⟨?_, ?_⟩
    · rw [nodes, root, ← moved]
      exact run_emit draft low repeats
    · rw [Grammar.size, nodes, root, List.size_toArray, length_nodes]
  · cases failed.symm.trans compiled

section Behind
variable {draft : Draft} {nodes : List Node} {root : Nat}

theorem extends_extend (draft : Draft) (nodes : List Node) : draft.Extends (draft.extend nodes) := by
  refine ⟨?_, id⟩
  intro place slot placed
  have inside := (Array.getElem?_eq_some_iff.mp placed).1
  exact (Array.getElem?_append_left inside).trans placed

theorem size_le_extend (draft : Draft) (nodes : List Node) : draft.size ≤ (draft.extend nodes).size :=
  size_extend draft nodes ▸ Nat.le_add_right _ _

theorem sealable_extend (sealable : draft.Sealable) (backward : Backward draft.size nodes) :
    (draft.extend nodes).Sealable := by
  intro place slot placed
  rcases Nat.lt_or_ge place draft.size with old | new
  · have kept : (draft.extend nodes).slots[place]? = draft.slots[place]? := Array.getElem?_append_left old
    exact (sealable place slot (kept.symm.trans placed)).mono (size_le_extend draft nodes)
  · have added : (draft.extend nodes).slots[place]? = nodes[place - draft.size]?.map Slot.ready := by
      simp [Draft.extend, Array.getElem?_append_right new, Draft.size]
    obtain ⟨node, found, rfl⟩ := Option.map_eq_some_iff.mp (added.symm.trans placed)
    refine ⟨?_, ?_⟩
    · intro name impossible
      cases impossible
    · intro child member
      have before := backward _ node found child member
      rw [Nat.add_sub_cancel' new] at before
      have inside : place < (draft.extend nodes).size := (Array.getElem?_eq_some_iff.mp placed).1
      exact ⟨Nat.lt_trans before inside, fun _ => before⟩

theorem seal_of_sealable (sealable : draft.Sealable) (inside : root < draft.size) :
    ∃ grammar, draft.seal root = .ok grammar ∧ draft.SealedAs grammar := by
  rcases seal_cases inside with built | ⟨_, place, slot, _, first, _⟩
  · exact built
  · exact absurd (sealable place slot first.placed) first.faulty

theorem seal_extend {grammar : Grammar} (backward : Backward draft.size nodes)
    (built : draft.seal root = .ok grammar) : ∃ later, (draft.extend nodes).seal root = .ok later ∧
      ∀ id, id < draft.size → later.node? id = grammar.node? id := by
  obtain ⟨inside, sealedAs⟩ := sealedAs_of_seal built
  obtain ⟨later, built', sealedAs'⟩ := seal_of_sealable (sealable_extend sealedAs.sealable backward)
    (Nat.lt_of_lt_of_le inside (size_le_extend draft nodes))
  refine ⟨later, built', ?_⟩
  intro id known
  have found : grammar.node? id = some _ := Array.getElem?_eq_getElem (Nat.lt_of_lt_of_eq known sealedAs.size.symm)
  exact (node_of_extends (extends_extend draft nodes) sealedAs sealedAs' found).trans found.symm

end Behind

/-- Compiling into a draft appends the nodes of the grammar, moved behind those of the draft, and answers with the
root. Where there is no grammar it fails for the same reason. The nodes that are left over then refer to nothing
but what stands before them, so what could be sealed before still can be, with the nodes it had. -/
theorem compiling_appends_shifted_nodes (expression : Expression) (draft : Draft) :
    (∀ grammar, expression.compile = .ok grammar →
      expression.draft.run draft = (.ok (draft.size + grammar.root),
        draft.extend (grammar.nodes.toList.map (Node.shift draft.size))) ∧ grammar.root + 1 = grammar.size) ∧
    ∀ error, expression.compile = .error error → ∃ nodes,
      expression.draft.run draft = (.error error, draft.extend nodes) ∧ Backward draft.size nodes ∧
      ∀ root grammar, draft.seal root = .ok grammar → ∃ later, (draft.extend nodes).seal root = .ok later ∧
        ∀ id, id < draft.size → later.node? id = grammar.node? id := by
  refine ⟨fun _ => run_draft_of_compile draft, ?_⟩
  intro error failed
  rcases compile_cases expression with ⟨_, _, _, compiled⟩ | ⟨_, again, fails, _⟩
  · cases failed.symm.trans compiled
  · cases failed.symm.trans again
    obtain ⟨nodes, ran, backward⟩ := fails draft
    exact ⟨nodes, ran, backward, fun _ _ => seal_extend backward⟩

/-- Behind a captured letter, `"b"+` ends at the fifth place. Four nodes of `"b"+ then "c" x0` are left there, and
the letter can be sealed as before. -/
theorem half_an_expression_does_no_harm :
    let draft := Draft.perform {} [.literal "a" .sensitive, .capture 0 "letter"]
    let whole : Expression := .modified (.literal "b") .oneOrMore
    let broken : Expression := .sequence whole (.times (.literal "c") 0)
    (whole.draft.run draft).1 = .ok 4 ∧ broken.compile = .error .emptyRepeat ∧
      ∃ grammar nodes later, draft.seal 1 = .ok grammar ∧
        broken.draft.run draft = (.error .emptyRepeat, draft.extend nodes) ∧ nodes.length = 4 ∧
        (draft.extend nodes).seal 1 = .ok later ∧ later.node? 1 = grammar.node? 1 := by
  intro draft whole broken
  have size : draft.size = 2 := by decide +kernel
  have low : whole.height ≤ Expression.maxHeight := by decide
  have repeats : whole.Repeats := trivial
  obtain ⟨alone, compiled, _, root, _⟩ := compile_eq low repeats
  obtain ⟨succeeds, _⟩ := compiling_appends_shifted_nodes whole draft
  have answer : (whole.draft.run draft).1 = .ok (draft.size + alone.root) :=
    congrArg Prod.fst (succeeds alone compiled).1
  rw [size, root] at answer
  have failed : broken.compile = .error .emptyRepeat := rfl
  obtain ⟨_, fails⟩ := compiling_appends_shifted_nodes broken draft
  obtain ⟨nodes, ran, _, seals⟩ := fails _ failed
  have appended : (broken.draft.run draft).2.size = draft.size + 4 := by decide +kernel
  rw [ran, size_extend] at appended
  have passed : (draft.seal 1).toOption.any (fun _ => true) = true := by decide +kernel
  obtain ⟨grammar, built, _⟩ := ok_of_any passed
  obtain ⟨later, built', same⟩ := seals 1 grammar built
  exact ⟨answer, failed, grammar, nodes, later, built, ran, Nat.add_left_cancel appended, built',
    same 1 (size ▸ Nat.one_lt_two)⟩

end Proofs
end Peg
