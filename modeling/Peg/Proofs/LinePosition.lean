import Peg.Text.Location

/-! Where a position lies in a text. The line and the column are counted on from character to character; they come
out as the number of line feeds before the position and its distance from the start of its line. What lies
further on has a later line, or a later column in the same line. -/

namespace Peg

/-- The line on which a position lies begins at `start`: the text begins there or a line feed stands right before it,
and no line feed stands between it and the position. -/
structure LineStart (scalars : List Char) (position start : Nat) : Prop where
  before : start ≤ position
  opens : start = 0 ∨ scalars[start - 1]? = some '\n'
  unbroken : ∀ index, start ≤ index → index < position → scalars[index]? ≠ some '\n'

namespace Location

/-- The order of lines and, within a line, of columns. -/
def Before (here other : Location) : Prop :=
  here.line < other.line ∨ here.line = other.line ∧ here.column < other.column

theorem Before.trans {first second third : Location} (before : first.Before second)
    (before' : second.Before third) : first.Before third := by
  unfold Before at *
  omega

theorem not_before {here other : Location} (line : here.line = other.line) (column : here.column = other.column) :
    ¬ here.Before other := by
  unfold Before
  omega

theorem before_next (here : Location) (c : Char) : here.Before (here.next c) := by
  unfold next
  split
  · exact .inl (Nat.lt_succ_self _)
  · exact .inr ⟨rfl, Nat.lt_succ_self _⟩

end Location

namespace Proofs

section Lines
variable {scalars : List Char} {index start : Nat} {c : Char}

theorem lineStart_zero : LineStart scalars 0 start ↔ start = 0 := by
  constructor
  · intro line
    exact Nat.le_zero.mp line.before
  · rintro rfl
    exact ⟨Nat.le_refl 0, .inl rfl, fun _ _ impossible => absurd impossible (Nat.not_lt_zero _)⟩

theorem lineStart_behind_feed (found : scalars[index]? = some '\n') :
    LineStart scalars (index + 1) start ↔ start = index + 1 := by
  constructor
  · intro line
    apply Nat.le_antisymm line.before
    apply Nat.lt_of_not_le
    intro earlier
    exact line.unbroken index earlier (Nat.lt_succ_self index) found
  · rintro rfl
    refine ⟨Nat.le_refl _, .inr found, ?_⟩
    intro other behind before
    exact absurd before (Nat.not_lt_of_le behind)

theorem lineStart_behind_other (found : scalars[index]? = some c) (other : c ≠ '\n') :
    LineStart scalars (index + 1) start ↔ LineStart scalars index start := by
  have plain : scalars[index]? ≠ some '\n' := found ▸ mt Option.some.inj other
  constructor
  · intro line
    have earlier : start ≠ index + 1 := by
      rintro rfl
      rcases line.opens with impossible | feed
      · cases impossible
      · exact plain feed
    have before : start ≤ index := Nat.le_of_lt_succ (Nat.lt_of_le_of_ne line.before earlier)
    exact ⟨before, line.opens, fun place behind within => line.unbroken place behind (Nat.lt_succ_of_lt within)⟩
  · intro line
    refine ⟨Nat.le_succ_of_le line.before, line.opens, ?_⟩
    intro place behind within
    rcases Nat.lt_or_eq_of_le (Nat.le_of_lt_succ within) with earlier | rfl
    · exact line.unbroken place behind earlier
    · exact plain

end Lines

section Places
variable {scalars : List Char} {index : Nat} {c : Char}

theorem line_after (here : Location) (chars : List Char) :
    (here.after chars).line = here.line + chars.count '\n' := by
  induction chars generalizing here with
  | nil => rfl
  | cons c rest ih =>
    have next : (here.next c).line = here.line + [c].count '\n' := by
      unfold Location.next
      split <;> simp [*]
    have others := ih (here.next c)
    rw [next, Nat.add_assoc, ← List.count_append] at others
    exact others

theorem locate_succ (found : scalars[index]? = some c) :
    Location.locate scalars (index + 1) = (Location.locate scalars index).next c := by
  have whole : scalars.take (index + 1) = scalars.take index ++ [c] := by
    rw [List.take_add_one, found, Option.toList_some]
  have last : ∀ here : Location, here.after [c] = here.next c := fun _ => rfl
  rw [Location.locate, whole, Location.after_append, last, Location.locate]
  unfold Location.next
  split <;> rfl

theorem exists_found (inside : index + 1 ≤ scalars.length) : ∃ c, scalars[index]? = some c :=
  ⟨scalars[index], List.getElem?_eq_getElem inside⟩

/-- Going on by one character keeps the column the distance from the start of the line. -/
theorem lineStart_iff (inside : index ≤ scalars.length) (start : Nat) :
    LineStart scalars index start ↔ start + (Location.locate scalars index).column = index := by
  induction index with
  | zero => exact lineStart_zero
  | succ index ih =>
    obtain ⟨c, found⟩ := exists_found inside
    rw [locate_succ found, Location.next]
    split
    next feed => exact lineStart_behind_feed (feed ▸ found)
    next other =>
      rw [lineStart_behind_other found other, ih (Nat.le_of_succ_le inside)]
      exact Nat.succ_inj.symm

theorem column_le (inside : index ≤ scalars.length) : (Location.locate scalars index).column ≤ index := by
  induction index with
  | zero => exact Nat.le_refl 0
  | succ index ih =>
    obtain ⟨c, found⟩ := exists_found inside
    rw [locate_succ found, Location.next]
    split
    next => exact Nat.zero_le _
    next => exact Nat.succ_le_succ (ih (Nat.le_of_succ_le inside))

theorem before_of_lt {later : Nat} (earlier : index < later) (inside : later ≤ scalars.length) :
    (Location.locate scalars index).Before (Location.locate scalars later) := by
  induction earlier with
  | refl =>
    obtain ⟨c, found⟩ := exists_found inside
    exact locate_succ found ▸ Location.before_next _ c
  | step _ ih =>
    obtain ⟨c, found⟩ := exists_found inside
    exact (ih (Nat.le_of_succ_le inside)).trans (locate_succ found ▸ Location.before_next _ c)

end Places

/-- A position lies on the line after as many line feeds as stand before it, and in the column that tells how far
its line start is behind it. A position further on comes later in the order of lines and columns, so no two
positions share a line and a column. -/
theorem location_is_faithful (scalars : List Char) :
    (∀ index ≤ scalars.length,
      let here := Location.locate scalars index
      here.index = index ∧ here.line = (scalars.take index).count '\n' ∧
        (∃ start, LineStart scalars index start) ∧
        ∀ start, LineStart scalars index start → start + here.column = index) ∧
    (∀ index later, index < later → later ≤ scalars.length →
      (Location.locate scalars index).Before (Location.locate scalars later)) ∧
    ∀ index ≤ scalars.length, ∀ other ≤ scalars.length,
      (Location.locate scalars index).line = (Location.locate scalars other).line →
      (Location.locate scalars index).column = (Location.locate scalars other).column → index = other := by
  have ordered : ∀ index later, index < later → later ≤ scalars.length →
      (Location.locate scalars index).Before (Location.locate scalars later) :=
    fun _ _ earlier inside => before_of_lt earlier inside
  refine ⟨?_, ordered, ?_⟩
  · intro index inside here
    have line : here.line = 0 + (scalars.take index).count '\n' := line_after {} (scalars.take index)
    rw [Nat.zero_add] at line
    refine ⟨rfl, line, ⟨index - here.column, ?_⟩, fun start => (lineStart_iff inside start).mp⟩
    exact (lineStart_iff inside _).mpr (Nat.sub_add_cancel (column_le inside))
  · intro index inside other inside' line column
    rcases Nat.lt_trichotomy index other with earlier | same | later
    · exact absurd (ordered index other earlier inside') (Location.not_before line column)
    · exact same
    · exact absurd (ordered other index later inside) (Location.not_before line.symm column.symm)

/-- The line between two line feeds that follow each other is empty, and its one position is its own. -/
theorem empty_line_has_a_position :
    let scalars := ['a', '\n', '\n', 'b']
    2 ≤ scalars.length ∧ LineStart scalars 2 2 ∧ (Location.locate scalars 2).line = 1 ∧
      2 + (Location.locate scalars 2).column = 2 ∧
      (Location.locate scalars 1).Before (Location.locate scalars 2) ∧
      (Location.locate scalars 2).Before (Location.locate scalars 4) := by
  intro scalars
  obtain ⟨places, ordered, _⟩ := location_is_faithful scalars
  have inside : 2 ≤ scalars.length := by decide
  obtain ⟨_, line, _, distance⟩ := places 2 inside
  have start : LineStart scalars 2 2 := (lineStart_behind_feed rfl).mpr rfl
  exact ⟨inside, start, line, distance 2 start, ordered 1 2 (by decide) inside, ordered 2 4 (by decide) (by decide)⟩

end Proofs
end Peg
