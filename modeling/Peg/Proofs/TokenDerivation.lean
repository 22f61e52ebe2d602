import Peg.Expression.TokenGrammar
import Peg.Proofs.Derivation

/-! What the nodes of the token graph match, told by the characters that are left. -/

namespace Peg.Proofs

def Remains (scalars : Array Char) (position : Nat) (chars : List Char) : Prop :=
  scalars.toList.drop position = chars

section Remaining
variable {scalars : Array Char} {position : Nat} {chars rest : List Char} {c : Char}

theorem Remains.head (remains : Remains scalars position chars) : scalars[position]? = chars.head? := by
  rw [← remains, List.head?_drop, Array.getElem?_toList]

theorem Remains.append {first : List Char} (remains : Remains scalars position (first ++ rest)) :
    Remains scalars (position + first.length) rest := by
  rw [Remains, ← List.drop_drop, remains, List.drop_left]

theorem Remains.tail (remains : Remains scalars position (c :: rest)) : Remains scalars (position + 1) rest := by
  have whole : Remains scalars position ([c] ++ rest) := remains
  exact whole.append

end Remaining

section Characters
variable {grammar : Grammar} {scalars : Array Char} {id position : Nat} {chars rest : List Char} {c : Char}

section Literal
variable {text : String} (found : grammar.node? id = some (.literal text .sensitive)) (single : text.toList = [c])
include found single

theorem derives_char (remains : Remains scalars position (c :: rest)) :
    Derives .progress grammar scalars 1 (.node id) position (some (position + 1)) := by
  have spelled : Spelled .sensitive scalars text.toList position := by
    rw [single, spelled_cons, remains.head]
    exact ⟨⟨c, rfl, beq_self_eq_true c⟩, spelled_nil⟩
  have size : text.length = 1 := by
    rw [← String.length_toList, single]
    rfl
  have matched : Derives .progress grammar scalars 1 (.node id) position (some (position + text.length)) :=
    .literal found spelled
  rwa [size] at matched

theorem derives_char_fail (remains : Remains scalars position chars) (other : chars.head? ≠ some c) :
    Derives .progress grammar scalars 1 (.node id) position none := by
  apply Derives.literal_fail found
  rw [single, spelled_cons, remains.head]
  rintro ⟨⟨actual, seen, agrees⟩, _⟩
  exact other (beq_iff_eq.mp agrees ▸ seen)

end Literal

section Checker
variable {name : String} {test : Char → Bool} (found : grammar.node? id = some (.checker name test))
include found

theorem derives_checker (remains : Remains scalars position (c :: rest)) (passed : test c = true) :
    Derives .progress grammar scalars 1 (.node id) position (some (position + 1)) :=
  .checker found remains.head passed

theorem derives_checker_fail (remains : Remains scalars position chars) (refused : chars.head?.any test = false) :
    Derives .progress grammar scalars 1 (.node id) position none := by
  apply Derives.checker_fail found
  intro c seen
  rw [remains.head] at seen
  rwa [seen] at refused

theorem derives_run (remains : Remains scalars position chars) :
    Derives .progress grammar scalars 1 (.span id) position
      (some (position + (chars.takeWhile test).length)) := by
  induction chars generalizing position with
  | nil => exact .span_end (derives_checker_fail found remains rfl)
  | cons c rest ih =>
    cases passed : test c with
    | false =>
      rw [List.takeWhile_cons_of_neg (by simp [passed])]
      exact .span_end (derives_checker_fail found remains passed)
    | true =>
      have others := ih remains.tail
      rw [List.takeWhile_cons_of_pos passed, List.length_cons, Nat.add_comm _ 1, ← Nat.add_assoc]
      exact .span_next (derives_checker found remains passed) (fun _ => Nat.lt_succ_self _) others

end Checker

end Characters

def tokenNodes : List Node :=
  [.checker "whitespace" Unicode.isWhiteSpace, .span 0, .literal "\"" .sensitive, .literal "\\" .sensitive,
    .checker "char_any" CharClass.any.contains, .sequence 3 4,
    .checker "string_char" fun c => c != '"' && c != '\\', .choice 5 6, .span 7, .sequence 2 8,
    .sequence 9 2, .capture 10 0, .checker "word_char" CharClass.isBareWord, .span 12, .sequence 12 13,
    .capture 14 1, .checker "['+', '?', '-', '(', ')']" ['+', '?', '-', '(', ')'].contains,
    .capture 16 2, .choice 15 17, .choice 11 18]

theorem node?_token (id : Nat) : TokenGrammar.grammar.node? id = tokenNodes[id]? := by
  have nodes : TokenGrammar.grammar.nodes = tokenNodes.toArray := by with_unfolding_all rfl
  rw [Grammar.node?, nodes, List.getElem?_toArray]

/-- The number of characters that are elements of a literal, up to its closing quote. -/
def bodySize : List Char → Nat
  | '\\' :: _ :: rest => bodySize rest + 2
  | c :: rest => if c = '"' ∨ c = '\\' then 0 else bodySize rest + 1
  | [] => 0

/-- The number of characters of the literal, the word or the symbol that the text starts with. -/
def quotedSize : List Char → Option Nat
  | '"' :: rest => if (rest.drop (bodySize rest)).head? = some '"' then some (bodySize rest + 2) else none
  | _ => none

def wordSize (chars : List Char) : Option Nat :=
  if chars.head?.any CharClass.isBareWord then some (chars.takeWhile CharClass.isBareWord).length else none

def symbolSize (chars : List Char) : Option Nat :=
  if chars.head?.any ['+', '?', '-', '(', ')'].contains then some 1 else none

inductive TokenKind where
  | literal
  | word
  | symbol

/-- The token that the text starts with, and its size. -/
def startingToken (chars : List Char) : Option (TokenKind × Nat) :=
  match quotedSize chars, wordSize chars, symbolSize chars with
  | some size, _, _ => some (.literal, size)
  | none, some size, _ => some (.word, size)
  | none, none, some size => some (.symbol, size)
  | none, none, none => none

section Tokens
variable {scalars : Array Char} {position : Nat} {chars rest : List Char}

theorem derives_space (remains : Remains scalars position chars) :
    Derives .progress TokenGrammar.grammar scalars 2 (.node 1) position
      (some (position + (chars.takeWhile Unicode.isWhiteSpace).length)) :=
  .span (node?_token 1) (derives_run (node?_token 0) remains)

theorem derives_element_fail (remains : Remains scalars position chars)
    (ended : chars.head?.any (fun c => c != '"' && c != '\\') = false)
    (lone : ∀ c rest, chars ≠ '\\' :: c :: rest) :
    Derives .progress TokenGrammar.grammar scalars 3 (.node 7) position none := by
  have plain := derives_checker_fail (node?_token 6) remains ended
  apply Derives.choice_right (node?_token 7) _ plain.succ
  by_cases escaped : chars.head? = some '\\'
  · obtain ⟨rest, rfl⟩ := List.head?_eq_some_iff.mp escaped
    have none : rest.head? = none := by
      cases rest with
      | nil => rfl
      | cons c rest => exact absurd rfl (lone c rest)
    have matched := derives_char (node?_token 3) rfl remains
    have refused : rest.head?.any CharClass.any.contains = false := by
      rw [none]
      rfl
    exact .sequence (node?_token 5) matched (derives_checker_fail (node?_token 4) remains.tail refused)
  · exact .sequence_fail (node?_token 5) (derives_char_fail (node?_token 3) rfl remains escaped)

theorem derives_body (remains : Remains scalars position chars) :
    Derives .progress TokenGrammar.grammar scalars 3 (.span 7) position (some (position + bodySize chars)) := by
  fun_induction bodySize chars generalizing position with
  | case1 c rest ih =>
    have escaped := derives_char (node?_token 3) rfl remains
    have any := derives_checker (node?_token 4) remains.tail rfl
    have element := Derives.choice_left (node?_token 7) (.sequence (node?_token 5) escaped any)
    have others := ih remains.tail.tail
    rw [Nat.add_comm _ 2, ← Nat.add_assoc]
    exact .span_next element (fun _ => Nat.lt_add_of_pos_right (Nat.succ_pos 1)) others
  | case2 c rest alone stops =>
    have refused : (c != '"' && c != '\\') = false := by
      rcases stops with rfl | rfl <;> rfl
    apply Derives.span_end
    apply derives_element_fail remains refused
    intro next rest same
    cases same
    exact alone next rest rfl rfl
  | case3 c rest _ goes ih =>
    obtain ⟨notQuote, notBackslash⟩ := not_or.mp goes
    have other : (c :: rest).head? ≠ some '\\' := by simpa using notBackslash
    have escape := derives_char_fail (node?_token 3) rfl remains other
    have plain := derives_checker (node?_token 6) remains (by simp [notQuote, notBackslash])
    have element := Derives.choice_right (node?_token 7) (.sequence_fail (node?_token 5) escape) plain.succ
    have others := ih remains.tail
    rw [Nat.add_comm _ 1, ← Nat.add_assoc]
    exact .span_next element (fun _ => Nat.lt_succ_self _) others
  | case4 => exact .span_end (derives_element_fail remains rfl nofun)

theorem derives_quoted (remains : Remains scalars position chars) :
    Derives .progress TokenGrammar.grammar scalars 6 (.node 10) position
      ((quotedSize chars).map (position + ·)) := by
  by_cases quote : chars.head? = some '"'
  · obtain ⟨rest, rfl⟩ := List.head?_eq_some_iff.mp quote
    have before := derives_char (node?_token 2) rfl remains
    have body := Derives.span (node?_token 8) (derives_body remains.tail)
    have opened := Derives.sequence (node?_token 9) (before.mono (Nat.le_add_left 1 3)) body
    have behind : Remains scalars (position + 1 + bodySize rest) (rest.drop (bodySize rest)) := by
      rw [Remains, ← List.drop_drop, remains.tail]
    rw [quotedSize]
    split
    · next closed =>
      obtain ⟨others, same⟩ := List.head?_eq_some_iff.mp closed
      have after := derives_char (node?_token 2) rfl (same ▸ behind)
      have size : position + (bodySize rest + 2) = position + 1 + bodySize rest + 1 := by omega
      rw [Option.map_some, size]
      exact .sequence (node?_token 10) opened (after.mono (Nat.le_add_left 1 4))
    · next unclosed =>
      have after := derives_char_fail (node?_token 2) rfl behind unclosed
      exact .sequence (node?_token 10) opened (after.mono (Nat.le_add_left 1 4))
  · have none : quotedSize chars = none := by
      unfold quotedSize
      split
      · exact absurd rfl quote
      · rfl
    have before := derives_char_fail (node?_token 2) rfl remains quote
    rw [none]
    exact .sequence_fail (node?_token 10) (.sequence_fail (node?_token 9) (before.mono (Nat.le_add_left 1 3)))

theorem derives_word (remains : Remains scalars position chars) :
    Derives .progress TokenGrammar.grammar scalars 3 (.node 14) position
      ((wordSize chars).map (position + ·)) := by
  unfold wordSize
  split
  · next starts =>
    cases chars with
    | nil => cases starts
    | cons c rest =>
      have starts : CharClass.isBareWord c = true := starts
      have first := derives_checker (node?_token 12) remains starts
      have others := Derives.span (node?_token 13) (derives_run (node?_token 12) remains.tail)
      rw [List.takeWhile_cons_of_pos starts, List.length_cons, Option.map_some, Nat.add_comm _ 1, ← Nat.add_assoc]
      exact .sequence (node?_token 14) first.succ others
  · next refused =>
    have first := derives_checker_fail (node?_token 12) remains (eq_false_of_ne_true refused)
    exact .sequence_fail (node?_token 14) first.succ

theorem derives_symbol (remains : Remains scalars position chars) :
    Derives .progress TokenGrammar.grammar scalars 1 (.node 16) position
      ((symbolSize chars).map (position + ·)) := by
  unfold symbolSize
  split
  · next starts =>
    cases chars with
    | nil => cases starts
    | cons c rest => exact derives_checker (node?_token 16) remains starts
  · next refused => exact derives_checker_fail (node?_token 16) remains (eq_false_of_ne_true refused)

end Tokens

end Peg.Proofs
