import Peg.Grammar.Sealed

/-! Matching as derivations over a graph and a text, without states, limits or traces: a node at a
position derives the position after its match, or a failure. -/

namespace Peg.Proofs

/-- When the repetitions of a span end: in the textbook at the first failure alone, here also at the
first match that does not move on. -/
inductive SpanRule where
  | textbook
  | progress
deriving DecidableEq

/-- A node, a number of matches of a node in a row, or as many of them as there are. -/
inductive Goal where
  | node (id : Nat)
  | times (inner count : Nat)
  | span (inner : Nat)

/-- The text agrees with these characters from a position on. -/
def Spelled (casing : CaseRule) (scalars : Array Char) (chars : List Char) (position : Nat) : Prop :=
  ∀ (index : Nat) (expected : Char), chars[index]? = some expected →
    ∃ actual, scalars[position + index]? = some actual ∧ casing.agrees expected actual = true

/-- The height bounds the number of nodes that are nested in each other. -/
inductive Derives (rule : SpanRule) (grammar : Grammar) (scalars : Array Char) :
    Nat → Goal → Nat → Option Nat → Prop where
  | literal {height id text casing position} (found : grammar.node? id = some (.literal text casing))
      (spelled : Spelled casing scalars text.toList position) :
      Derives rule grammar scalars (height + 1) (.node id) position (some (position + text.length))
  | literal_fail {height id text casing position}
      (found : grammar.node? id = some (.literal text casing))
      (different : ¬ Spelled casing scalars text.toList position) :
      Derives rule grammar scalars (height + 1) (.node id) position none
  | checker {height id name test position c} (found : grammar.node? id = some (.checker name test))
      (seen : scalars[position]? = some c) (passed : test c = true) :
      Derives rule grammar scalars (height + 1) (.node id) position (some (position + 1))
  | checker_fail {height id name test position}
      (found : grammar.node? id = some (.checker name test))
      (refused : ∀ c, scalars[position]? = some c → test c = false) :
      Derives rule grammar scalars (height + 1) (.node id) position none
  | sequence {height id left right position middle stop}
      (found : grammar.node? id = some (.sequence left right))
      (first : Derives rule grammar scalars height (.node left) position (some middle))
      (second : Derives rule grammar scalars height (.node right) middle stop) :
      Derives rule grammar scalars (height + 1) (.node id) position stop
  | sequence_fail {height id left right position}
      (found : grammar.node? id = some (.sequence left right))
      (first : Derives rule grammar scalars height (.node left) position none) :
      Derives rule grammar scalars (height + 1) (.node id) position none
  | choice_left {height id left right position stop}
      (found : grammar.node? id = some (.choice left right))
      (first : Derives rule grammar scalars height (.node left) position (some stop)) :
      Derives rule grammar scalars (height + 1) (.node id) position (some stop)
  | choice_right {height id left right position stop}
      (found : grammar.node? id = some (.choice left right))
      (first : Derives rule grammar scalars height (.node left) position none)
      (second : Derives rule grammar scalars height (.node right) position stop) :
      Derives rule grammar scalars (height + 1) (.node id) position stop
  | negate {height id inner position} (found : grammar.node? id = some (.negate inner))
      (failed : Derives rule grammar scalars height (.node inner) position none) :
      Derives rule grammar scalars (height + 1) (.node id) position (some position)
  | negate_fail {height id inner position stop} (found : grammar.node? id = some (.negate inner))
      (matched : Derives rule grammar scalars height (.node inner) position (some stop)) :
      Derives rule grammar scalars (height + 1) (.node id) position none
  | optional {height id inner position stop} (found : grammar.node? id = some (.optional inner))
      (matched : Derives rule grammar scalars height (.node inner) position (some stop)) :
      Derives rule grammar scalars (height + 1) (.node id) position (some stop)
  | optional_empty {height id inner position} (found : grammar.node? id = some (.optional inner))
      (failed : Derives rule grammar scalars height (.node inner) position none) :
      Derives rule grammar scalars (height + 1) (.node id) position (some position)
  | times {height id inner count position stop}
      (found : grammar.node? id = some (.times inner count))
      (all : Derives rule grammar scalars height (.times inner count) position stop) :
      Derives rule grammar scalars (height + 1) (.node id) position stop
  | times_done {height inner position} :
      Derives rule grammar scalars height (.times inner 0) position (some position)
  | times_fail {height inner count position}
      (first : Derives rule grammar scalars height (.node inner) position none) :
      Derives rule grammar scalars height (.times inner (count + 1)) position none
  | times_next {height inner count position middle stop}
      (first : Derives rule grammar scalars height (.node inner) position (some middle))
      (rest : Derives rule grammar scalars height (.times inner count) middle stop) :
      Derives rule grammar scalars height (.times inner (count + 1)) position stop
  | span {height id inner position stop} (found : grammar.node? id = some (.span inner))
      (all : Derives rule grammar scalars height (.span inner) position stop) :
      Derives rule grammar scalars (height + 1) (.node id) position stop
  | span_end {height inner position}
      (failed : Derives rule grammar scalars height (.node inner) position none) :
      Derives rule grammar scalars height (.span inner) position (some position)
  | span_still {height inner position} (progress : rule = .progress)
      (still : Derives rule grammar scalars height (.node inner) position (some position)) :
      Derives rule grammar scalars height (.span inner) position (some position)
  | span_next {height inner position middle stop}
      (first : Derives rule grammar scalars height (.node inner) position (some middle))
      (moved : rule = .progress → position < middle)
      (rest : Derives rule grammar scalars height (.span inner) middle stop) :
      Derives rule grammar scalars height (.span inner) position stop
  | capture {height id inner slot position stop}
      (found : grammar.node? id = some (.capture inner slot))
      (result : Derives rule grammar scalars height (.node inner) position stop) :
      Derives rule grammar scalars (height + 1) (.node id) position stop
  | rule {height id name target position stop}
      (found : grammar.node? id = some (.rule name target))
      (body : Derives rule grammar scalars height (.node target) position stop) :
      Derives rule grammar scalars (height + 1) (.node id) position stop

def Derivable (rule : SpanRule) (grammar : Grammar) (scalars : Array Char) (id position : Nat)
    (stop : Option Nat) : Prop :=
  ∃ height, Derives rule grammar scalars height (.node id) position stop

section Literals
variable {casing : CaseRule} {scalars : Array Char}

theorem spelled_nil {position : Nat} : Spelled casing scalars [] position := by
  intro index expected impossible
  cases impossible

theorem spelled_cons {expected : Char} {rest : List Char} {position : Nat} :
    Spelled casing scalars (expected :: rest) position ↔
      (∃ actual, scalars[position]? = some actual ∧ casing.agrees expected actual = true) ∧
        Spelled casing scalars rest (position + 1) := by
  constructor
  · intro spelled
    refine ⟨spelled 0 expected rfl, ?_⟩
    intro index next found
    rw [Nat.add_assoc, Nat.add_comm 1 index]
    exact spelled (index + 1) next found
  · rintro ⟨head, tail⟩ index next found
    cases index with
    | zero =>
      cases found
      exact head
    | succ index =>
      rw [Nat.add_comm index 1, ← Nat.add_assoc]
      exact tail index next found

theorem Spelled.inside {chars : List Char} {position : Nat} (inside : position ≤ scalars.size)
    (spelled : Spelled casing scalars chars position) : position + chars.length ≤ scalars.size := by
  induction chars generalizing position with
  | nil => exact inside
  | cons expected rest ih =>
    obtain ⟨⟨actual, seen, _⟩, tail⟩ := spelled_cons.mp spelled
    have others := ih (Array.getElem?_eq_some_iff.mp seen).1 tail
    simp only [List.length_cons]
    omega

end Literals

section Laws
variable {rule : SpanRule} {grammar : Grammar} {scalars : Array Char} {height : Nat} {goal : Goal}
  {position : Nat} {stop : Option Nat}

theorem Derives.forward (derived : Derives rule grammar scalars height goal position stop) :
    ∀ last, stop = some last → position ≤ last := by
  induction derived with
  | literal | checker =>
    intro last same
    cases same
    omega
  | literal_fail | checker_fail | sequence_fail | negate_fail | times_fail =>
    intro last impossible
    cases impossible
  | sequence _ _ _ first second | times_next _ _ first second | span_next _ _ _ first second =>
    intro last same
    exact Nat.le_trans (first _ rfl) (second last same)
  | choice_left _ _ ih | optional _ _ ih | choice_right _ _ _ _ ih | times _ _ ih | span _ _ ih
  | capture _ _ ih | rule _ _ ih => exact ih
  | negate | optional_empty | times_done | span_end | span_still =>
    intro last same
    cases same
    exact Nat.le_refl _

theorem Derives.inside (derived : Derives rule grammar scalars height goal position stop)
    (inside : position ≤ scalars.size) : ∀ last, stop = some last → last ≤ scalars.size := by
  induction derived with
  | literal _ spelled =>
    intro last same
    cases same
    rw [← String.length_toList]
    exact spelled.inside inside
  | checker _ seen _ =>
    intro last same
    cases same
    exact (Array.getElem?_eq_some_iff.mp seen).1
  | literal_fail | checker_fail | sequence_fail | negate_fail | times_fail =>
    intro last impossible
    cases impossible
  | sequence _ _ _ first second | times_next _ _ first second | span_next _ _ _ first second =>
    exact second (first inside _ rfl)
  | choice_left _ _ ih | optional _ _ ih | choice_right _ _ _ _ ih | times _ _ ih | span _ _ ih
  | capture _ _ ih | rule _ _ ih => exact ih inside
  | negate | optional_empty | times_done | span_end | span_still =>
    intro last same
    cases same
    exact inside

/-- Neither a greater height nor the progress rule changes a result. Where a round does not move on,
the rest of the span starts over from the same position. -/
theorem Derives.transfer {other : SpanRule} (extra : Nat) (admits : rule = .progress → other = .progress)
    (derived : Derives rule grammar scalars height goal position stop) :
    Derives other grammar scalars (extra + height) goal position stop := by
  induction derived with
  | literal found spelled => exact .literal found spelled
  | literal_fail found different => exact .literal_fail found different
  | checker found seen passed => exact .checker found seen passed
  | checker_fail found refused => exact .checker_fail found refused
  | sequence found _ _ first second => exact .sequence found first second
  | sequence_fail found _ first => exact .sequence_fail found first
  | choice_left found _ first => exact .choice_left found first
  | choice_right found _ _ first second => exact .choice_right found first second
  | negate found _ ih => exact .negate found ih
  | negate_fail found _ ih => exact .negate_fail found ih
  | optional found _ ih => exact .optional found ih
  | optional_empty found _ ih => exact .optional_empty found ih
  | times found _ ih => exact .times found ih
  | times_done => exact .times_done
  | times_fail _ ih => exact .times_fail ih
  | times_next _ _ first rest => exact .times_next first rest
  | span found _ ih => exact .span found ih
  | span_end _ ih => exact .span_end ih
  | span_still progress _ ih => exact .span_still (admits progress) ih
  | span_next derived _ _ first rest =>
    rcases Nat.lt_or_eq_of_le (derived.forward _ rfl) with moved | rfl
    · exact .span_next first (fun _ => moved) rest
    · exact rest
  | capture found _ ih => exact .capture found ih
  | rule found _ ih => exact .rule found ih

theorem Derives.mono {more : Nat} (derived : Derives rule grammar scalars height goal position stop)
    (most : height ≤ more) : Derives rule grammar scalars more goal position stop := by
  obtain ⟨extra, rfl⟩ := Nat.exists_eq_add_of_le' most
  exact derived.transfer extra id

theorem Derives.succ (derived : Derives rule grammar scalars height goal position stop) :
    Derives rule grammar scalars (height + 1) goal position stop :=
  derived.mono (Nat.le_succ height)

theorem Derives.progress (derived : Derives .textbook grammar scalars height goal position stop) :
    Derives .progress grammar scalars height goal position stop := by
  rw [← Nat.zero_add height]
  exact derived.transfer 0 (fun _ => rfl)

end Laws

end Peg.Proofs
