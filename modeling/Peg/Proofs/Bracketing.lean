import Peg.Proofs.Extension
import Peg.Proofs.View

/-! Brackets make no difference. A chain of sequences goes on while its nodes match and a chain of choices while
they fail, and either ends with the first node that does otherwise. So what it does is told by its nodes in their
order, however they are joined two by two, and a counted repetition is a chain of sequences too. -/

namespace Peg

inductive Joint where
  | sequence
  | choice

namespace Joint

def node : Joint → Nat → Nat → Node
  | .sequence => .sequence
  | .choice => .choice

def goesOn : Joint → Bool
  | .sequence => true
  | .choice => false

def chainOf : Joint → List Nat → Drafting (Option Nat)
  | .sequence => Draft.sequenceOf
  | .choice => Draft.choiceOf

end Joint

/-- Brackets around two things at a time. -/
inductive Bracketing where
  | node (id : Nat)
  | pair (left right : Bracketing)

namespace Bracketing

def nodes : Bracketing → List Nat
  | .node id => [id]
  | .pair left right => left.nodes ++ right.nodes

def nestedLeft (tree : Bracketing) (rest : List Nat) : Bracketing :=
  rest.foldl (fun tree id => .pair tree (.node id)) tree

def nestedRight (first : Nat) : List Nat → Bracketing
  | [] => .node first
  | next :: rest => .pair (.node first) (nestedRight next rest)

/-- Each pair of brackets is a joint of the nodes that its sides stand for. -/
inductive Stands (placed : Nat → Node → Prop) (joint : Joint) : Bracketing → Nat → Prop where
  | node {id} : Stands placed joint (.node id) id
  | pair {left right one other id} (found : placed id (joint.node one other)) (first : Stands placed joint left one)
      (second : Stands placed joint right other) : Stands placed joint (.pair left right) id

/-- The brackets are nodes of the grammar, and so is what they are put around. -/
structure StandsIn (grammar : Grammar) (joint : Joint) (tree : Bracketing) (id : Nat) : Prop where
  known : ∀ node ∈ tree.nodes, node < grammar.size
  stands : tree.Stands (fun id node => grammar.node? id = some node) joint id

theorem StandsIn.lt_size {grammar : Grammar} {joint : Joint} {tree : Bracketing} {id : Nat}
    (stands : tree.StandsIn grammar joint id) : id < grammar.size := by
  obtain ⟨known, stands⟩ := stands
  cases stands with
  | node => exact known id List.mem_cons_self
  | pair found _ _ => exact (Array.getElem?_eq_some_iff.mp found).1

end Bracketing

/-- The brackets that a chain has when it is drafted as a whole. -/
def Joint.nested : Joint → Nat → List Nat → Bracketing
  | .sequence, first, rest => .nestedLeft (.node first) rest
  | .choice, first, rest => .nestedRight first rest

namespace Proofs
open Draft

/-- The nodes are tried one after the other for as long as each of them ends like this. -/
def Chain (grammar : Grammar) (scalars : Array Char) (goesOn : Bool) : List Nat → View → Bool → View → Prop
  | [], before, matched, after => matched = goesOn ∧ after = before
  | id :: rest, before, matched, after =>
    matched = (!goesOn) ∧ Takes grammar scalars (.visit id) before (!goesOn) after ∨
    ∃ middle, Takes grammar scalars (.visit id) before goesOn middle ∧
      Chain grammar scalars goesOn rest middle matched after

section Chains
variable {grammar : Grammar} {scalars : Array Char} {goesOn matched : Bool} {before after : View} {id : Nat}
  {nodes others : List Nat}

theorem chain_single : Chain grammar scalars goesOn [id] before matched after ↔
    Takes grammar scalars (.visit id) before matched after := by
  constructor
  · rintro (⟨rfl, last⟩ | ⟨_, first, rfl, rfl⟩)
    · exact last
    · exact first
  · intro takes
    by_cases same : matched = goesOn
    · obtain rfl := same
      exact .inr ⟨_, takes, rfl, rfl⟩
    · obtain rfl : matched = !goesOn := Bool.eq_not_of_ne same
      exact .inl ⟨rfl, takes⟩

theorem chain_append : Chain grammar scalars goesOn (nodes ++ others) before matched after ↔
    matched = (!goesOn) ∧ Chain grammar scalars goesOn nodes before (!goesOn) after ∨
    ∃ middle, Chain grammar scalars goesOn nodes before goesOn middle ∧
      Chain grammar scalars goesOn others middle matched after := by
  induction nodes generalizing before with
  | nil =>
    constructor
    · intro chain
      exact .inr ⟨before, ⟨rfl, rfl⟩, chain⟩
    · rintro (⟨_, stopped, _⟩ | ⟨_, ⟨_, rfl⟩, chain⟩)
      · exact absurd stopped (Bool.not_ne_self goesOn)
      · exact chain
  | cons id nodes ih =>
    constructor
    · rintro (⟨rfl, last⟩ | ⟨next, first, chain⟩)
      · exact .inl ⟨rfl, .inl ⟨rfl, last⟩⟩
      · rcases ih.mp chain with ⟨rfl, inner⟩ | ⟨middle, inner, behind⟩
        · exact .inl ⟨rfl, .inr ⟨next, first, inner⟩⟩
        · exact .inr ⟨middle, .inr ⟨next, first, inner⟩, behind⟩
    · rintro (⟨rfl, ⟨_, last⟩ | ⟨next, first, inner⟩⟩ | ⟨middle, ⟨gone, _⟩ | ⟨next, first, inner⟩, behind⟩)
      · exact .inl ⟨rfl, last⟩
      · exact .inr ⟨next, first, ih.mpr (.inl ⟨rfl, inner⟩)⟩
      · exact absurd gone (Bool.self_ne_not goesOn)
      · exact .inr ⟨next, first, ih.mpr (.inr ⟨middle, inner, behind⟩)⟩

theorem Chain.settled (chain : Chain grammar scalars goesOn nodes before goesOn after) :
    after.settle before.position goesOn = after := by
  cases goesOn with
  | true => rfl
  | false =>
    have back : after.position = before.position := by
      induction nodes generalizing before with
      | nil => exact congrArg View.position chain.2
      | cons id nodes ih =>
        rcases chain with ⟨impossible, _⟩ | ⟨_, first, rest⟩
        · cases impossible
        · exact (ih rest).trans first.back
    exact congrArg after.rewind back.symm

end Chains

section Nodes
variable {grammar : Grammar} {scalars : Array Char} {before after : View} {matched : Bool} {joint : Joint}
  {id left right inner start count : Nat} {tree : Bracketing}

theorem takes_choice : Takes grammar scalars (.parts id (.choice left right)) before matched after ↔
    ∃ last, after = last.settle before.position matched ∧
      (matched = true ∧ Takes grammar scalars (.visit left) before true last ∨
      ∃ middle, Takes grammar scalars (.visit left) before false middle ∧
        Takes grammar scalars (.visit right) middle matched last) := by
  constructor
  · rintro ⟨_, state, _, _, evaluation, underway, rfl, rfl, rfl⟩
    cases evaluation with
    | choice_left first => exact ⟨_, rfl, .inl ⟨rfl, first.takes underway⟩⟩
    | @choice_right _ _ _ _ _ after _ _ first second =>
      have failed := first.takes underway
      have again := second.takes ⟨(first.underway underway).running, underway.inside⟩
      have back : (after.rewind state.position).view = after.view := failed.settled
      exact ⟨_, again.settled.symm, .inr ⟨_, failed, back ▸ again⟩⟩
  · rintro ⟨last, rfl, ⟨rfl, found⟩ | ⟨middle, failed, rest⟩⟩
    · obtain ⟨_, _, _, _, first, underway, rfl, rfl⟩ := found.found
      exact (Evaluates.choice_left first).takes underway
    · have back := failed.settled
      rw [← failed.back, rest.settled]
      obtain ⟨_, state, ending, first, underway, rfl, rfl⟩ := failed.failed
      obtain ⟨_, _, _, first, second, rfl, rfl⟩ :=
        rest.behind trivial (ending.rewind state.position) (first.underway underway).running back first
      exact (Evaluates.choice_right first second).takes underway

theorem takes_joint : Takes grammar scalars (.parts id (joint.node left right)) before matched after ↔
    ∃ last, after = last.settle before.position matched ∧
      (matched = (!joint.goesOn) ∧ Takes grammar scalars (.visit left) before (!joint.goesOn) last ∨
      ∃ middle, Takes grammar scalars (.visit left) before joint.goesOn middle ∧
        Takes grammar scalars (.visit right) middle matched last) := by
  cases joint with
  | sequence => exact takes_sequence
  | choice => exact takes_choice

theorem stands_takes (stands : tree.Stands (fun id node => grammar.node? id = some node) joint id) :
    Takes grammar scalars (.visit id) before matched after ↔ ∃ last, after = last.settle before.position matched ∧
      Chain grammar scalars joint.goesOn tree.nodes before matched last := by
  induction stands generalizing before matched after with
  | node =>
    constructor
    · intro takes
      exact ⟨after, takes.settled.symm, chain_single.mpr takes⟩
    · rintro ⟨last, rfl, chain⟩
      have takes := chain_single.mp chain
      exact takes.settled.symm ▸ takes
  | pair found _ _ ih ih' =>
    -- Where the left side has been gone through, the right one begins at the view that it has left.
    rw [takes_visit found, takes_joint]
    constructor
    · rintro ⟨_, rfl, ⟨rfl, first⟩ | ⟨_, first, second⟩⟩
      · obtain ⟨last, rfl, chain⟩ := ih.mp first
        exact ⟨last, last.settle_settle .., chain_append.mpr (.inl ⟨rfl, chain⟩)⟩
      · obtain ⟨middle, rfl, chain⟩ := ih.mp first
        obtain ⟨last, rfl, others⟩ := ih'.mp second
        rw [chain.settled] at others
        exact ⟨last, last.settle_settle .., chain_append.mpr (.inr ⟨middle, chain, others⟩)⟩
    · rintro ⟨last, rfl, chain⟩
      rcases chain_append.mp chain with ⟨rfl, first⟩ | ⟨middle, chain, others⟩
      · exact ⟨_, (last.settle_settle ..).symm, .inl ⟨rfl, ih.mpr ⟨last, rfl, first⟩⟩⟩
      · have first := ih.mpr ⟨middle, chain.settled.symm, chain⟩
        exact ⟨_, (last.settle_settle ..).symm, .inr ⟨middle, first, ih'.mpr ⟨last, rfl, others⟩⟩⟩

theorem takes_round : Takes grammar scalars (.times inner start (count + 1)) before matched after ↔
    (∃ last, after = last.rewind start ∧ matched = false ∧ Takes grammar scalars (.visit inner) before false last) ∨
    ∃ middle, Takes grammar scalars (.visit inner) before true middle ∧
      Takes grammar scalars (.times inner start count) middle matched after := by
  constructor
  · rintro ⟨_, _, _, _, evaluation, underway, rfl, rfl, rfl⟩
    cases evaluation with
    | times_fail failed => exact .inl ⟨_, rfl, rfl, failed.takes underway⟩
    | times_next first rest => exact .inr ⟨_, first.takes underway, rest.takes (first.underway underway)⟩
  · rintro (⟨last, rfl, rfl, failed⟩ | ⟨middle, found, rest⟩)
    · obtain ⟨_, _, _, first, underway, rfl, rfl⟩ := failed.failed
      exact (Evaluates.times_fail first).takes underway
    · obtain ⟨_, _, _, _, first, underway, rfl, rfl⟩ := found.found
      obtain ⟨_, _, _, first, others, rfl, rfl⟩ := rest.behind trivial _ (first.underway underway).running rfl first
      exact (Evaluates.times_next first others).takes underway

theorem takes_rounds (inside : before.position ≤ scalars.size) :
    Takes grammar scalars (.times inner start count) before matched after ↔
      ∃ last, after = last.settle start matched ∧
        Chain grammar scalars true (List.replicate count inner) before matched last := by
  induction count generalizing before with
  | zero =>
    constructor
    · rintro ⟨_, _, _, _, evaluation, _, rfl, rfl, rfl⟩
      cases evaluation with
      | times_done => exact ⟨_, rfl, rfl, rfl⟩
    · rintro ⟨view, rfl, rfl, rfl⟩
      let state : State := ⟨view.position, view.failure, view.captures, 0, 0, false, none⟩
      have done : Evaluates ⟨grammar, scalars, .unlimited⟩ 0 (.times inner start 0) state _ state := .times_done
      exact done.takes ⟨rfl, inside⟩
  | succ count ih =>
    rw [takes_round, List.replicate_succ]
    constructor
    · rintro (⟨last, rfl, rfl, failed⟩ | ⟨middle, first, rest⟩)
      · exact ⟨last, rfl, .inl ⟨rfl, failed⟩⟩
      · obtain ⟨last, rfl, chain⟩ := (ih rest.inside).mp rest
        exact ⟨last, rfl, .inr ⟨middle, first, chain⟩⟩
    · rintro ⟨last, rfl, ⟨rfl, failed⟩ | ⟨middle, first, chain⟩⟩
      · exact .inl ⟨last, rfl, rfl, failed⟩
      · exact .inr ⟨middle, first, (ih first.inside_after).mpr ⟨last, rfl, chain⟩⟩

theorem takes_times : Takes grammar scalars (.parts id (.times inner count)) before matched after ↔
    Takes grammar scalars (.times inner before.position count) before matched after := by
  constructor
  · rintro ⟨_, _, _, _, evaluation, underway, rfl, rfl, rfl⟩
    cases evaluation with
    | times all => exact all.takes underway
  · rintro ⟨_, _, _, _, all, underway, rfl, rfl, rfl⟩
    exact (Evaluates.times all).takes underway

end Nodes

section Drafts
variable {draft later : Draft} {grammar : Grammar} {joint : Joint} {placed placed' : Nat → Node → Prop}
  {tree : Bracketing} {id : Nat}

theorem Stands.mono (kept : ∀ {id node}, placed id node → placed' id node) (stands : tree.Stands placed joint id) :
    tree.Stands placed' joint id := by
  induction stands with
  | node => exact .node
  | pair found _ _ ih ih' => exact .pair (kept found) ih ih'

theorem holds_joint (draft : Draft) (joint : Joint) (left right : Nat) :
    ((Draft.add (joint.node left right)).run draft).2.Holds ((Draft.add (joint.node left right)).run draft).1
      (joint.node left right) :=
  Array.getElem?_push_size

theorem stands_sequences (rest : List Nat) (stands : tree.Stands draft.Holds .sequence id) :
    (tree.nestedLeft rest).Stands ((rest.foldlM Draft.sequence id).run draft).2.Holds .sequence
      ((rest.foldlM Draft.sequence id).run draft).1 := by
  induction rest generalizing draft tree id with
  | nil => exact stands
  | cons next rest ih =>
    have kept := Stands.mono (fun holds => holds_evolves holds (careful_sequence id next draft)) stands
    exact ih (.pair (holds_joint draft .sequence id next) kept .node)

theorem stands_choices (first : Nat) (rest : List Nat) (draft : Draft) : ∃ chain,
    ((Draft.choiceOf (first :: rest)).run draft).1 = some chain ∧
      (Bracketing.nestedRight first rest).Stands ((Draft.choiceOf (first :: rest)).run draft).2.Holds .choice
        chain := by
  induction rest generalizing first with
  | nil => exact ⟨first, rfl, .node⟩
  | cons next rest ih =>
    obtain ⟨others, built, stands⟩ := ih next
    generalize same : (Draft.choiceOf (next :: rest)).run draft = middle at built stands
    obtain ⟨_, middle⟩ := middle
    cases built
    have whole : (Draft.choiceOf (first :: next :: rest)).run draft =
        (some ((Draft.choice first others).run middle).1, ((Draft.choice first others).run middle).2) := by
      rw [Draft.choiceOf, StateT.run_bind, same]
      rfl
    rw [whole]
    have kept := Stands.mono (fun holds => holds_evolves holds (careful_choice first others middle)) stands
    exact ⟨_, rfl, .pair (holds_joint middle .choice first others) .node kept⟩

theorem stands_chainOf (joint : Joint) (first : Nat) (rest : List Nat) (draft : Draft) : ∃ chain,
    ((joint.chainOf (first :: rest)).run draft).1 = some chain ∧
      (joint.nested first rest).Stands ((joint.chainOf (first :: rest)).run draft).2.Holds joint chain := by
  cases joint with
  | sequence => exact ⟨_, rfl, stands_sequences rest .node⟩
  | choice => exact stands_choices first rest draft

theorem nodes_nestedLeft (tree : Bracketing) (rest : List Nat) :
    (tree.nestedLeft rest).nodes = tree.nodes ++ rest := by
  induction rest generalizing tree with
  | nil => exact (List.append_nil _).symm
  | cons next rest ih => exact (ih _).trans (List.append_assoc ..)

theorem nodes_nestedRight (first : Nat) (rest : List Nat) :
    (Bracketing.nestedRight first rest).nodes = first :: rest := by
  induction rest generalizing first with
  | nil => rfl
  | cons next rest ih => exact congrArg (first :: ·) (ih next)

theorem nodes_nested (joint : Joint) (first : Nat) (rest : List Nat) :
    (joint.nested first rest).nodes = first :: rest := by
  cases joint with
  | sequence => exact nodes_nestedLeft _ rest
  | choice => exact nodes_nestedRight first rest

end Drafts

/-- Chains of the same nodes stand for each other, whatever their brackets are, and so does a counted repetition
and each chain of so many sequences. What is drafted as a whole is such a chain, nested to the left or to the
right, in every grammar that is sealed from the draft later on. -/
theorem bracketing_does_not_matter (grammar : Grammar) :
    (∀ (tree other : Bracketing) joint id id', tree.StandsIn grammar joint id → other.StandsIn grammar joint id' →
      tree.nodes = other.nodes → grammar.Interchangeable id id') ∧
    (∀ (tree : Bracketing) inner count id id', tree.StandsIn grammar .sequence id →
      tree.nodes = List.replicate count inner → grammar.node? id' = some (.times inner count) →
      grammar.Interchangeable id id') ∧
    ∀ (joint : Joint) first rest draft later root, (∀ node ∈ first :: rest, node < grammar.size) →
      Evolves ((joint.chainOf (first :: rest)).run draft).2 later → later.seal root = .ok grammar →
      ∃ chain, ((joint.chainOf (first :: rest)).run draft).1 = some chain ∧
        (joint.nested first rest).StandsIn grammar joint chain ∧ (joint.nested first rest).nodes = first :: rest := by
  refine ⟨?_, ?_, ?_⟩
  · intro tree other joint id id' one two same
    apply interchangeable_of_takes one.lt_size two.lt_size
    intro scalars before matched after
    rw [stands_takes one.stands, stands_takes two.stands, same]
  · intro tree inner count id id' chain nodes found
    apply interchangeable_of_takes chain.lt_size (Array.getElem?_eq_some_iff.mp found).1
    intro scalars before matched after
    have counted (inside : before.position ≤ scalars.size) :
        Takes grammar scalars (.visit id) before matched after ↔
          Takes grammar scalars (.visit id') before matched after := by
      rw [stands_takes chain.stands, nodes, takes_visit found, takes_times, takes_rounds inside]
      rfl
    exact ⟨fun takes => (counted takes.inside).mp takes, fun takes => (counted takes.inside).mpr takes⟩
  · intro joint first rest draft later root known evolves built
    obtain ⟨_, sealedAs⟩ := sealedAs_of_seal built
    obtain ⟨chain, drafted, stands⟩ := stands_chainOf joint first rest draft
    have nodes := nodes_nested joint first rest
    have placed := Stands.mono (fun holds => node?_of_holds (holds_evolves holds evolves) sealedAs) stands
    exact ⟨chain, drafted, ⟨nodes ▸ known, placed⟩, nodes⟩

/-- Up to three letters one after the other, drafted as a whole, with other brackets, and counted. -/
theorem three_letters_in_other_brackets :
    let operations : List Operation := [.literal "a" .sensitive, .optional 0, .sequenceOf [1, 1, 1],
      .sequence 1 2, .times 1 3]
    ∃ grammar run, (Draft.perform {} operations).seal 3 = .ok grammar ∧ grammar.Interchangeable 3 4 ∧
      grammar.Interchangeable 3 5 ∧ grammar.runWith .unlimited 3 (.ofString "aab") none = .ok run ∧
      run.result = some ⟨0, 2⟩ := by
  intro operations
  have answers : ((Draft.perform {} operations).seal 3).toOption.any (fun grammar =>
      (grammar.runWith .unlimited 3 (.ofString "aab") none).toOption.any (·.result == some ⟨0, 2⟩)) = true := by
    decide +kernel
  obtain ⟨grammar, built, answers⟩ := ok_of_any answers
  obtain ⟨run, ran, matched⟩ := ok_of_any answers
  obtain ⟨_, sealedAs⟩ := sealedAs_of_seal built
  have placed {id : Nat} {node : Node} (holds : (Draft.perform {} operations).Holds id node) :
    grammar.node? id = some node := node?_of_holds holds sealedAs
  have letters : ∀ node ∈ [1, 1, 1], node < grammar.size := by
    rw [sealedAs.size]
    decide +kernel
  obtain ⟨brackets, counts, drafts⟩ := bracketing_does_not_matter grammar
  obtain ⟨_, drafted, chain, nodes⟩ := drafts .sequence 1 [1, 1] (Draft.perform {} (operations.take 2)) _ 3 letters
    (evolves_perform _ (operations.drop 3)) built
  cases drafted
  have outer : grammar.node? 4 = some (.sequence 1 2) := placed rfl
  have inner : grammar.node? 2 = some (.sequence 1 1) := placed rfl
  have other : (Bracketing.pair (.node 1) (.pair (.node 1) (.node 1))).StandsIn grammar .sequence 4 :=
    ⟨letters, .pair outer .node (.pair inner .node .node)⟩
  exact ⟨grammar, run, built, brackets _ _ _ _ _ chain other nodes, counts _ 1 3 _ _ chain nodes (placed rfl), ran,
    eq_of_beq matched⟩

end Proofs
end Peg
