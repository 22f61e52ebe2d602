import Peg.Character.Class
import Peg.Grammar.Error

/-! A pattern graph under construction. Nodes are only ever appended, and an operation answers with
the number of the node it appended last. The numbers given to an operation are not looked at: a
graph is checked as a whole when it is sealed. -/

namespace Peg

/-- A place of a draft: a finished node, or a rule that waits for its body. -/
inductive Slot where
  | ready (node : Node)
  | declared (name : String) (target : Option Nat)

structure Draft where
  slots : Array Slot := #[]
  captureNames : Array String := #[]

abbrev Drafting := StateM Draft

/-- Work on a draft that can fail; what was appended before the failure stays. -/
abbrev CheckedDrafting := ExceptT BuildError Drafting

namespace Draft

def size (draft : Draft) : Nat := draft.slots.size

def isEmpty (draft : Draft) : Bool := draft.slots.isEmpty

def append (slot : Slot) : Drafting Nat :=
  modifyGet fun draft => (draft.slots.size, { draft with slots := draft.slots.push slot })

def add (node : Node) : Drafting Nat := append (.ready node)

def literal (text : String) (casing : CaseRule) : Drafting Nat := add (.literal text casing)

def checker (name : String) (test : Char → Bool) : Drafting Nat := add (.checker name test)

def preset (charClass : CharClass) : Drafting Nat := checker charClass.title charClass.contains

/-- One character between two others, both included. -/
def charRange (first last : Char) : Drafting Nat :=
  checker s!"'{first}'..'{last}'" fun c => first ≤ c && c ≤ last

def charSet (members : List Char) : Drafting Nat :=
  checker ("[" ++ ", ".intercalate (members.map fun c => s!"'{c}'") ++ "]") members.contains

def sequence (left right : Nat) : Drafting Nat := add (.sequence left right)

def choice (left right : Nat) : Drafting Nat := add (.choice left right)

/-- A chain of sequences, grouped to the left. -/
def sequenceOf : List Nat → Drafting (Option Nat)
  | [] => return none
  | first :: rest => return some (← rest.foldlM sequence first)

/-- A chain of choices, grouped to the right, so that the first node is tried first. -/
def choiceOf : List Nat → Drafting (Option Nat)
  | [] => return none
  | first :: rest => do
    match ← choiceOf rest with
    | none => return some first
    | some others => return some (← choice first others)

def negate (inner : Nat) : Drafting Nat := add (.negate inner)

def optional (inner : Nat) : Drafting Nat := add (.optional inner)

def span (inner : Nat) : Drafting Nat := add (.span inner)

/-- A pattern followed by a span of it; the two share one node. -/
def oneOrMore (inner : Nat) : Drafting Nat := do
  let rest ← span inner
  sequence inner rest

def times (inner : Nat) (count : Nat) : CheckedDrafting Nat :=
  if count = 0 then throw .emptyRepeat else add (.times inner count)

/-- The slot of a capture name. Captures of one name share one slot. -/
def captureSlot (name : String) : Drafting Nat :=
  modifyGet fun draft =>
    match draft.captureNames.findIdx? (· == name) with
    | some slot => (slot, draft)
    | none => (draft.captureNames.size, { draft with captureNames := draft.captureNames.push name })

def capture (inner : Nat) (name : String) : Drafting (Nat × Nat) := do
  let slot ← captureSlot name
  return (← add (.capture inner slot), slot)

/-- A rule whose body is given later, and which may be referred to at once. -/
def declare (name : String) : Drafting Nat := append (.declared name none)

def rule (name : String) (target : Nat) : Drafting Nat := add (.rule name target)

def define (node body : Nat) : CheckedDrafting Unit := do
  match (← get).slots[node]? with
  | some (.declared name none) =>
    modify fun draft =>
      { draft with slots := draft.slots.setIfInBounds node (.declared name (some body)) }
  | some (.declared name (some _)) => throw (.redefined name)
  | some (.ready _) => throw (.notDeclared node)
  | none => throw (.notInDraft node)

end Draft
end Peg
