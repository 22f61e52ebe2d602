import Mathlib.Algebra.GroupWithZero.Nat
import Peg.Grammar.Description

/-! What a node is called, one level at a time, and which texts a name is made of. The words and marks around these
texts hold no line feed, so a name has exactly the line feeds of the texts that are written out in it. -/

namespace Peg

/-- A node in words, its parts and the capture slots being in words. -/
def Node.wording (name? : Nat → Option String) (part : Nat → String) : Node → String
  | .literal text .sensitive => Text.Quoted.encode text
  | .literal text .insensitive => Text.Quoted.encode text ++ "i"
  | .checker name _ | .rule name _ => name
  | .sequence left right => "(" ++ part left ++ " then " ++ part right ++ ")"
  | .choice left right => "(" ++ part left ++ " or " ++ part right ++ ")"
  | .negate inner => part inner ++ "-"
  | .optional inner => part inner ++ "?"
  | .times inner count => part inner ++ s!" x{count}"
  | .span inner => part inner ++ "*"
  | .capture inner slot =>
    match name? slot with
    | some name => name ++ ":" ++ part inner
    | none => part inner

theorem describe_eq_wording {grammar : Grammar} {id : Nat} {node : Node} (found : grammar.node? id = some node) :
    grammar.describe id = node.wording grammar.captureName? grammar.describe := by
  rw [Grammar.describe]
  split
  next missing => cases found.symm.trans missing
  all_goals
    next here =>
      cases found.symm.trans here
      rfl

/-- The text that a node itself writes out in its description. -/
def Node.ownText? (name? : Nat → Option String) : Node → Option String
  | .literal text _ => some text
  | .checker name _ | .rule name _ => some name
  | .capture _ slot => name? slot
  | _ => none

/-- The parts that a description goes into. -/
def Node.shown (node : Node) : List Nat := if node.isRule then [] else node.children

/-- The text is written out in the description of a node: by the node itself, or by a part described with it. -/
inductive Grammar.WritesOut (grammar : Grammar) : Nat → String → Prop where
  | own {id node text} (found : grammar.node? id = some node)
      (own : node.ownText? grammar.captureName? = some text) : WritesOut grammar id text
  | part {id node child text} (found : grammar.node? id = some node) (shown : child ∈ node.shown)
      (writes : WritesOut grammar child text) : WritesOut grammar id text

def lineFeeds (text : String) : Nat := text.toList.count '\n'

namespace Proofs

section LineFeeds

@[simp] theorem lineFeeds_append (first rest : String) :
    lineFeeds (first ++ rest) = lineFeeds first + lineFeeds rest := by
  simp [lineFeeds]

@[simp] theorem lineFeeds_digits (number : Nat) : lineFeeds number.repr = 0 := by
  rw [lineFeeds, Nat.toList_repr, List.count_eq_zero]
  intro member
  exact absurd (Nat.isDigit_of_mem_toDigits (by decide) (by decide) member) (by decide)

theorem count_body (text : List Char) : (Text.Quoted.body text).count '\n' = text.count '\n' := by
  induction text with
  | nil => rfl
  | cons c text ih =>
    rw [Text.Quoted.body]
    split <;> simp [List.count_cons, ih]

@[simp] theorem lineFeeds_encode (text : String) : lineFeeds (Text.Quoted.encode text) = lineFeeds text := by
  have quote : lineFeeds "\"" = 0 := rfl
  have inside : lineFeeds (String.ofList (Text.Quoted.body text.toList)) = lineFeeds text := by
    rw [lineFeeds, String.toList_ofList, count_body, lineFeeds]
  rw [Text.Quoted.encode, lineFeeds_append, lineFeeds_append, quote, inside, Nat.zero_add, Nat.add_zero]

theorem lineFeeds_wording (name? : Nat → Option String) (part : Nat → String) (node : Node) :
    lineFeeds (node.wording name? part) =
      ((node.ownText? name?).map lineFeeds).getD 0 + (node.shown.map (lineFeeds ∘ part)).sum := by
  have marks : ∀ mark ∈ ["(", ")", " then ", " or ", "-", "?", "*", "i", ":", " x"], lineFeeds mark = 0 := by decide
  have inserted (text : String) : toString text = text := rfl
  simp only [List.forall_mem_cons] at marks
  cases node with
  | literal text casing => cases casing <;> simp [Node.wording, Node.ownText?, Node.shown, Node.children, marks]
  | capture inner slot =>
    cases named : name? slot <;>
      simp [Node.wording, Node.ownText?, Node.shown, Node.children, Node.isRule, named, marks]
  | _ => simp [Node.wording, Node.ownText?, Node.shown, Node.children, Node.isRule, marks, inserted]

end LineFeeds

section Descriptions
variable {grammar : Grammar} {id child : Nat} {node : Node}

theorem lt_of_shown (found : grammar.node? id = some node) (shown : child ∈ node.shown) : child < id := by
  unfold Node.shown at shown
  split at shown
  · cases shown
  next plain => exact grammar.lt_of_mem_children found (Bool.eq_false_iff.mpr plain) shown

theorem lineFeeds_describe_eq_zero_iff (grammar : Grammar) (id : Nat) :
    lineFeeds (grammar.describe id) = 0 ↔ ∀ text, grammar.WritesOut id text → lineFeeds text = 0 := by
  induction id using Nat.strongRecOn with
  | ind id ih =>
    cases found : grammar.node? id with
    | none =>
      have named : grammar.describe id = s!"#{id}" := by
        rw [Grammar.describe]
        split
        · rfl
        all_goals
          next here => cases found.symm.trans here
      have mark : lineFeeds (toString "#") = 0 := rfl
      have plain : lineFeeds (grammar.describe id) = 0 := by simp [named, mark]
      refine ⟨fun _ text writes => ?_, fun _ => plain⟩
      cases writes with
      | own found' _ | part found' _ _ => cases found.symm.trans found'
    | some node =>
      rw [describe_eq_wording found, lineFeeds_wording, Nat.add_eq_zero_iff, List.sum_eq_zero_iff_forall_eq_nat,
        List.forall_mem_map]
      constructor
      · rintro ⟨own, parts⟩ text writes
        cases writes with
        | own found' own' =>
          cases found.symm.trans found'
          rwa [own'] at own
        | part found' shown writes =>
          cases found.symm.trans found'
          exact (ih _ (lt_of_shown found shown)).mp (parts _ shown) text writes
      · intro plain
        constructor
        · cases own : node.ownText? grammar.captureName? with
          | none => rfl
          | some text => exact plain text (.own found own)
        · intro child shown
          exact (ih child (lt_of_shown found shown)).mpr fun text writes => plain text (.part found shown writes)

end Descriptions

end Proofs
end Peg
