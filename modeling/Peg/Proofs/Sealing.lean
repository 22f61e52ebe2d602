import Peg.Grammar.Sealed

/-! What sealing decides. A draft is sealed if its root exists and every slot can be, and otherwise refused for
the first slot that cannot, with the error of the first thing that is wrong with it. -/

namespace Peg

namespace Slot

def references : Slot → List Nat
  | .ready node => node.children
  | .declared _ target => target.toList

def isRule : Slot → Bool
  | .ready node => node.isRule
  | .declared _ _ => true

/-- What a slot may refer to: anything in the graph if it is a rule, and else what stands before it. -/
def MayRefer (size place : Nat) (slot : Slot) (child : Nat) : Prop :=
  child < size ∧ (slot.isRule = false → child < place)

structure Sealable (size place : Nat) (slot : Slot) : Prop where
  bound : ∀ name, slot ≠ .declared name none
  refers : ∀ child ∈ slot.references, slot.MayRefer size place child

/-- The first thing that is wrong with a slot. -/
inductive Refused (size place : Nat) (slot : Slot) : BuildError → Prop where
  | undefined {name} (waiting : slot = .declared name none) : Refused size place slot (.undefined name)
  | outside {earlier child later} (references : slot.references = earlier ++ child :: later)
      (harmless : ∀ other ∈ earlier, slot.MayRefer size place other) (beyond : size ≤ child) :
      Refused size place slot (.notInGrammar child)
  | behind {earlier child later} (references : slot.references = earlier ++ child :: later)
      (harmless : ∀ other ∈ earlier, slot.MayRefer size place other) (inside : child < size)
      (plain : slot.isRule = false) (behind : place ≤ child) : Refused size place slot (.notBefore place child)

end Slot

namespace Draft

def Sealable (draft : Draft) : Prop :=
  ∀ (place : Nat) (slot : Slot), draft.slots[place]? = some slot → slot.Sealable draft.size place

/-- The slot at this place is the first that cannot be sealed. -/
structure FirstFault (draft : Draft) (place : Nat) (slot : Slot) : Prop where
  placed : draft.slots[place]? = some slot
  faulty : ¬ slot.Sealable draft.size place
  earlier : ∀ (other : Nat) (before : Slot), other < place → draft.slots[other]? = some before →
    before.Sealable draft.size other

/-- The grammar has the nodes of the draft at their places, and its names. -/
structure SealedAs (draft : Draft) (grammar : Grammar) : Prop where
  size : grammar.size = draft.size
  names : grammar.captureNames = draft.captureNames
  sealable : draft.Sealable
  node : ∀ {place slot}, draft.slots[place]? = some slot →
    ∃ node, slot.node = .ok node ∧ grammar.node? place = some node

end Draft

section Refusals
variable {size place : Nat} {slot : Slot} {error : BuildError}

theorem Slot.Refused.not_sealable (refused : slot.Refused size place error) : ¬ slot.Sealable size place := by
  intro sealable
  cases refused with
  | undefined waiting => exact sealable.bound _ waiting
  | outside references _ beyond =>
    have refers := sealable.refers _ (references ▸ List.mem_append_cons_self)
    exact Nat.not_lt_of_le beyond refers.1
  | behind references _ _ plain behind =>
    have refers := sealable.refers _ (references ▸ List.mem_append_cons_self)
    exact Nat.not_lt_of_le behind (refers.2 plain)

theorem Slot.Refused.undefined_iff (refused : slot.Refused size place error) (name : String) :
    error = .undefined name ↔ slot = .declared name none := by
  constructor
  · rintro rfl
    cases refused with
    | undefined waiting => exact waiting
  · rintro rfl
    cases refused with
    | undefined waiting =>
      cases waiting
      rfl
    | outside references | behind references =>
      exact absurd references.symm (List.append_ne_nil_of_right_ne_nil _ (List.cons_ne_nil _ _))

end Refusals

namespace Proofs

theorem ok_of_any {ε α : Type} {result : Except ε α} {test : α → Bool} (passed : result.toOption.any test = true) :
    ∃ value, result = .ok value ∧ test value = true := by
  cases result with
  | error error => cases passed
  | ok value => exact ⟨value, rfl, passed⟩

section Slots
variable {size place child root : Nat} {slot : Slot} {node : Node} {slots : List Slot} {error : BuildError}
  {draft : Draft}

theorem references_of_node (resolved : slot.node = .ok node) :
    slot.references = node.children ∧ slot.isRule = node.isRule := by
  cases slot with
  | ready found =>
    cases resolved
    exact ⟨rfl, rfl⟩
  | declared name target =>
    cases target with
    | none => cases resolved
    | some target =>
      cases resolved
      exact ⟨rfl, rfl⟩

theorem bound_of_node (resolved : slot.node = .ok node) (name : String) : slot ≠ .declared name none := by
  rintro rfl
  cases resolved

theorem waiting_of_node (unresolved : slot.node = .error error) :
    ∃ name, slot = .declared name none ∧ error = .undefined name := by
  cases slot with
  | ready found => cases unresolved
  | declared name target =>
    cases target with
    | none =>
      cases unresolved
      exact ⟨name, rfl, rfl⟩
    | some target => cases unresolved

theorem fault_eq_none_iff (resolved : slot.node = .ok node) :
    Slot.fault size place node child = none ↔ slot.MayRefer size place child := by
  rw [Slot.MayRefer, (references_of_node resolved).2]
  by_cases inside : child < size
  · rw [Slot.fault, if_neg (Nat.not_le_of_lt inside)]
    by_cases late : node.isRule = false ∧ place ≤ child
    · rw [if_pos late]
      constructor
      · intro impossible
        cases impossible
      · intro refers
        exact absurd (refers.2 late.1) (Nat.not_lt_of_le late.2)
    · rw [if_neg late]
      exact ⟨fun _ => ⟨inside, fun plain => Nat.lt_of_not_le fun behind => late ⟨plain, behind⟩⟩, fun _ => rfl⟩
  · rw [Slot.fault, if_pos (Nat.le_of_not_lt inside)]
    constructor
    · intro impossible
      cases impossible
    · intro refers
      exact absurd refers.1 inside

theorem check_cases (size place : Nat) (slot : Slot) :
    (∃ node, slot.check size place = .ok node ∧ slot.node = .ok node ∧ slot.Sealable size place) ∨
      ∃ error, slot.check size place = .error error ∧ slot.Refused size place error := by
  cases resolved : slot.node with
  | error error =>
    obtain ⟨name, waiting, rfl⟩ := waiting_of_node resolved
    have failed : slot.check size place = .error (.undefined name) := by
      simp only [Slot.check, resolved, bind, Except.bind]
    exact .inr ⟨.undefined name, failed, .undefined waiting⟩
  | ok node =>
    obtain ⟨children, isRule⟩ := references_of_node resolved
    cases faulty : node.children.findSome? (Slot.fault size place node) with
    | none =>
      have passed : slot.check size place = .ok node := by
        simp only [Slot.check, resolved, bind, Except.bind, faulty]
      refine .inl ⟨node, passed, rfl, bound_of_node resolved, ?_⟩
      intro child member
      exact (fault_eq_none_iff resolved).mp (List.findSome?_eq_none_iff.mp faulty child (children ▸ member))
    | some error =>
      have failed : slot.check size place = .error error := by
        simp only [Slot.check, resolved, bind, Except.bind, faulty]
      refine .inr ⟨error, failed, ?_⟩
      obtain ⟨earlier, child, later, split, fault, harmless⟩ := List.findSome?_eq_some_iff.mp faulty
      have references := children.trans split
      have harmless := fun other member => (fault_eq_none_iff resolved).mp (harmless other member)
      unfold Slot.fault at fault
      split at fault
      next beyond =>
        cases fault
        exact .outside references harmless beyond
      next inside =>
        split at fault
        next late =>
          cases fault
          exact .behind references harmless (Nat.lt_of_not_le inside) (isRule.trans late.1) late.2
        next => cases fault

theorem checkAll_cases (size place : Nat) (slots : List Slot) :
    (∃ nodes, Slot.checkAll size place slots = .ok nodes ∧
      ∀ (index : Nat) (slot : Slot), slots[index]? = some slot → slot.Sealable size (place + index) ∧
        ∃ node, slot.node = .ok node ∧ nodes[index]? = some node) ∨
    ∃ (error : BuildError) (index : Nat) (slot : Slot), Slot.checkAll size place slots = .error error ∧
      slots[index]? = some slot ∧ slot.Refused size (place + index) error ∧
      ∀ (other : Nat) (before : Slot), other < index → slots[other]? = some before →
        before.Sealable size (place + other) := by
  induction slots generalizing place with
  | nil =>
    refine .inl ⟨[], rfl, ?_⟩
    intro index slot impossible
    cases impossible
  | cons slot rest ih =>
    have next : ∀ index, place + (index + 1) = place + 1 + index :=
      fun index => (Nat.succ_add_eq_add_succ place index).symm
    rcases check_cases size place slot with ⟨node, passed, resolved, sealable⟩ | ⟨error, failed, refused⟩
    · rcases ih (place + 1) with ⟨nodes, all, each⟩ | ⟨error, index, faulty, failed, placed, refused, earlier⟩
      · have checked : Slot.checkAll size place (slot :: rest) = .ok (node :: nodes) := by
          simp only [Slot.checkAll, passed, all, bind, Except.bind, pure, Except.pure]
        refine .inl ⟨node :: nodes, checked, ?_⟩
        intro index found placed
        cases index with
        | zero =>
          cases placed
          exact ⟨sealable, node, resolved, rfl⟩
        | succ index => exact next index ▸ each index found placed
      · have checked : Slot.checkAll size place (slot :: rest) = .error error := by
          simp only [Slot.checkAll, passed, failed, bind, Except.bind]
        refine .inr ⟨error, index + 1, faulty, checked, placed, next index ▸ refused, ?_⟩
        intro other before less placed
        cases other with
        | zero =>
          cases placed
          exact sealable
        | succ other => exact next other ▸ earlier other before (Nat.lt_of_succ_lt_succ less) placed
    · have checked : Slot.checkAll size place (slot :: rest) = .error error := by
        simp only [Slot.checkAll, failed, bind, Except.bind]
      refine .inr ⟨error, 0, slot, checked, rfl, refused, ?_⟩
      intro other before less
      exact absurd less (Nat.not_lt_zero other)

/-- With a root that exists, a draft is sealed if it can be, and else refused for its first fault. -/
theorem seal_cases (inside : root < draft.size) :
    (∃ grammar, draft.seal root = .ok grammar ∧ draft.SealedAs grammar) ∨
      ∃ (error : BuildError) (place : Nat) (slot : Slot), draft.seal root = .error error ∧
        draft.FirstFault place slot ∧ slot.Refused draft.size place error := by
  have checked := checkAll_cases draft.size 0 draft.slots.toList
  simp only [Nat.zero_add, Array.getElem?_toList] at checked
  unfold Draft.seal
  rw [dif_pos (show root < draft.slots.size from inside)]
  rcases checked with ⟨nodes, all, each⟩ | ⟨error, place, slot, failed, placed, refused, earlier⟩
  · refine .inl ?_
    split
    next failed => cases all.symm.trans failed
    next passed =>
      cases all.symm.trans passed
      have size : nodes.length = draft.slots.size := by simpa using Slot.length_checkAll all
      refine ⟨_, rfl, size, rfl, fun place slot placed => (each place slot placed).1, ?_⟩
      intro place slot placed
      obtain ⟨_, node, resolved, found⟩ := each place slot placed
      exact ⟨node, resolved, List.getElem?_toArray.trans found⟩
  · refine .inr ⟨error, place, slot, ?_, ⟨placed, refused.not_sealable, earlier⟩, refused⟩
    split
    next found =>
      cases failed.symm.trans found
      rfl
    next passed => cases failed.symm.trans passed

theorem sealedAs_of_seal {grammar : Grammar} (built : draft.seal root = .ok grammar) :
    root < draft.size ∧ draft.SealedAs grammar := by
  have inside : root < draft.size := by
    unfold Draft.seal at built
    split at built
    · assumption
    · cases built
  rcases seal_cases inside with ⟨found, again, sealedAs⟩ | ⟨_, _, _, failed, _⟩
  · cases built.symm.trans again
    exact ⟨inside, sealedAs⟩
  · cases built.symm.trans failed

theorem slot_of_sealedAs {grammar : Grammar} {id : Nat} (sealedAs : draft.SealedAs grammar)
    (found : grammar.node? id = some node) : ∃ slot, draft.slots[id]? = some slot ∧ slot.node = .ok node := by
  have inside : id < draft.size := sealedAs.size ▸ (Array.getElem?_eq_some_iff.mp found).1
  have placed : draft.slots[id]? = some draft.slots[id] := Array.getElem?_eq_getElem inside
  obtain ⟨own, resolved, again⟩ := sealedAs.node placed
  cases found.symm.trans again
  exact ⟨_, placed, resolved⟩

end Slots

end Proofs
end Peg
