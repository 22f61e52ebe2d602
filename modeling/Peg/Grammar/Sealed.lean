import Peg.Grammar.Draft
import Peg.Limits

/-! Sealed pattern graphs. Sealing checks a draft once: its root exists, every rule has a body,
and every node fits its place. What the check establishes is part of the type, so no reader of a
grammar has to check it again. -/

namespace Peg

/-- A pattern graph whose references all lead to nodes of the graph. Only rules refer to themselves
or to later nodes. -/
structure Grammar where
  nodes : Array Node
  root : Nat
  captureNames : Array String
  limits : Limits := {}
  root_lt : root < nodes.size
  fits : ∀ (id : Nat) (node : Node), nodes[id]? = some node → node.Fits nodes.size id

namespace Grammar

def size (grammar : Grammar) : Nat := grammar.nodes.size

def node? (grammar : Grammar) (id : Nat) : Option Node := grammar.nodes[id]?

def captureName? (grammar : Grammar) (slot : Nat) : Option String :=
  grammar.captureNames[slot]?

def captureSlot? (grammar : Grammar) (name : String) : Option Nat :=
  grammar.captureNames.findIdx? (· == name)

def withLimits (grammar : Grammar) (limits : Limits) : Grammar :=
  { grammar with limits := limits }

def withRoot (grammar : Grammar) (root : Nat) : Except BuildError Grammar :=
  if inside : root < grammar.nodes.size then
    .ok { grammar with root := root, root_lt := inside }
  else .error (.notInGrammar root)

end Grammar

namespace Slot

/-- The node of a slot; a declared rule becomes one when it has a body. -/
def node : Slot → Except BuildError Node
  | .ready node => .ok node
  | .declared name (some target) => .ok (.rule name target)
  | .declared name none => .error (.undefined name)

def fault (size place : Nat) (node : Node) (child : Nat) : Option BuildError :=
  if size ≤ child then some (.notInGrammar child)
  else if node.isRule = false ∧ place ≤ child then some (.notBefore place child)
  else none

def check (size place : Nat) (slot : Slot) : Except BuildError Node := do
  let node ← slot.node
  match node.children.findSome? (fault size place node) with
  | some error => .error error
  | none => .ok node

/-- The nodes of consecutive slots, the first of them at `place`. The first slot with a fault
decides the error. -/
def checkAll (size : Nat) : Nat → List Slot → Except BuildError (List Node)
  | _, [] => .ok []
  | place, slot :: rest => do
    let node ← slot.check size place
    let nodes ← checkAll size (place + 1) rest
    return node :: nodes

/-- A slot that passes has a node, and that node has no fault. -/
theorem clean_of_check {size place : Nat} {slot : Slot} {node : Node}
    (checked : slot.check size place = .ok node) :
    slot.node = .ok node ∧ node.children.findSome? (fault size place node) = none := by
  unfold check at checked
  cases resolved : slot.node with
  | error => simp [resolved, bind, Except.bind] at checked
  | ok found =>
    simp only [resolved, bind, Except.bind] at checked
    split at checked
    · simp at checked
    · next clean =>
      cases checked
      exact ⟨rfl, clean⟩

theorem fits_of_check {size place : Nat} {slot : Slot} {node : Node}
    (checked : slot.check size place = .ok node) : node.Fits size place := by
  intro child member
  have harmless := (List.findSome?_eq_none_iff.mp (clean_of_check checked).2) child member
  unfold fault at harmless
  split at harmless
  · simp at harmless
  · split at harmless
    · simp at harmless
    · next inside ordered =>
      exact ⟨Nat.lt_of_not_le inside, fun notRule =>
        Nat.lt_of_not_le fun behind => ordered ⟨notRule, behind⟩⟩

theorem length_checkAll {size place : Nat} {slots : List Slot} {nodes : List Node}
    (checked : checkAll size place slots = .ok nodes) : nodes.length = slots.length := by
  induction slots generalizing place nodes with
  | nil => cases checked; rfl
  | cons slot rest ih =>
    unfold checkAll at checked
    cases first : slot.check size place with
    | error => simp [first, bind, Except.bind] at checked
    | ok node =>
      cases others : checkAll size (place + 1) rest with
      | error => simp [first, others, bind, Except.bind] at checked
      | ok remaining =>
        simp only [first, others, bind, Except.bind, pure, Except.pure] at checked
        cases checked
        simp [ih others]

theorem check_of_checkAll {size place : Nat} {slots : List Slot} {nodes : List Node}
    (checked : checkAll size place slots = .ok nodes) (index : Nat) (node : Node)
    (found : nodes[index]? = some node) :
    ∃ slot, slots[index]? = some slot ∧ slot.check size (place + index) = .ok node := by
  induction slots generalizing place nodes index with
  | nil => cases checked; simp at found
  | cons slot rest ih =>
    unfold checkAll at checked
    cases first : slot.check size place with
    | error => simp [first, bind, Except.bind] at checked
    | ok head =>
      cases others : checkAll size (place + 1) rest with
      | error => simp [first, others, bind, Except.bind] at checked
      | ok remaining =>
        simp only [first, others, bind, Except.bind, pure, Except.pure] at checked
        cases checked
        cases index with
        | zero =>
          simp only [List.getElem?_cons_zero, Option.some.injEq] at found
          exact ⟨slot, rfl, found ▸ first⟩
        | succ index =>
          simp only [List.getElem?_cons_succ] at found
          have inner := ih others index found
          rwa [Nat.add_assoc, Nat.add_comm 1 index] at inner

theorem fits_of_checkAll {size place : Nat} {slots : List Slot} {nodes : List Node}
    (checked : checkAll size place slots = .ok nodes) (index : Nat) (node : Node)
    (found : nodes[index]? = some node) : node.Fits size (place + index) := by
  obtain ⟨_, _, passed⟩ := check_of_checkAll checked index node found
  exact fits_of_check passed

end Slot

def Draft.seal (draft : Draft) (root : Nat) : Except BuildError Grammar :=
  if inside : root < draft.slots.size then
    match checked : Slot.checkAll draft.slots.size 0 draft.slots.toList with
    | .error error => .error error
    | .ok nodes =>
      have same : nodes.toArray.size = draft.slots.size := by
        simpa using Slot.length_checkAll checked
      .ok {
        nodes := nodes.toArray
        root := root
        captureNames := draft.captureNames
        root_lt := same ▸ inside
        fits := fun id node found => by
          rw [same]
          have inner := Slot.fits_of_checkAll checked id node (by simpa using found)
          rwa [Nat.zero_add] at inner }
  else .error (.notInGrammar root)

end Peg
