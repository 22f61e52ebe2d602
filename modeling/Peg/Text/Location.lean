/-! Lines and columns. A location counts lines and columns from zero and is written the way
editors count them, from one. -/

namespace Peg

/-- A place in a text, or a range of `length` characters that starts there. -/
structure Location where
  index : Nat := 0
  line : Nat := 0
  column : Nat := 0
  length : Nat := 0
deriving Repr, DecidableEq

namespace Location

/-- The place after one more character: a line feed starts the next line. -/
def next (here : Location) (c : Char) : Location :=
  if c = '\n' then { index := here.index + 1, line := here.line + 1 }
  else { index := here.index + 1, line := here.line, column := here.column + 1 }

def after (here : Location) (scalars : List Char) : Location :=
  scalars.foldl next here

theorem after_append (here : Location) (first rest : List Char) :
    here.after (first ++ rest) = (here.after first).after rest :=
  List.foldl_append

theorem index_after (here : Location) (scalars : List Char) :
    (here.after scalars).index = here.index + scalars.length := by
  induction scalars generalizing here with
  | nil => rfl
  | cons c rest ih =>
    have step : (here.next c).index = here.index + 1 := by
      unfold next
      split <;> rfl
    have others := ih (here.next c)
    simp only [after, List.foldl_cons, List.length_cons] at others ⊢
    omega

/-- The place of the character at `index`. An index beyond the text keeps its value and has the
line and column of the end. -/
def locate (scalars : List Char) (index : Nat) : Location :=
  { after {} (scalars.take index) with index := index }

def range (start : Location) (length : Nat) : Location :=
  { start with length := length }

def start (range : Location) : Location :=
  { range with length := 0 }

def render (here : Location) : String :=
  s!"line {here.line + 1}, column {here.column + 1}"

end Location
end Peg
