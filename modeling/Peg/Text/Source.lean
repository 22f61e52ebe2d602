import Peg.Text.Location
import Peg.Text.Span

/-! A text with a scan position. Positions and spans count characters; the byte offset of every
character is kept beside them, so that a span is cut out of the text without decoding it again. -/

namespace Peg

/-- The byte offsets at which the characters start, the first one at `offset`, and the offset at
which the last one ends. -/
def byteOffsets (offset : Nat) : List Char → List Nat
  | [] => [offset]
  | c :: rest => offset :: byteOffsets (offset + c.utf8Size) rest

/-- A text and a position in it, which never lies beyond its end. -/
structure Source where
  text : String
  scalars : Array Char
  offsets : Array Nat
  position : Nat
  scalars_eq : scalars = text.toList.toArray
  offsets_eq : offsets = (byteOffsets 0 text.toList).toArray
  position_le : position ≤ scalars.size

namespace Source

def ofString (text : String) : Source where
  text := text
  scalars := text.toList.toArray
  offsets := (byteOffsets 0 text.toList).toArray
  position := 0
  scalars_eq := rfl
  offsets_eq := rfl
  position_le := Nat.zero_le _

def size (source : Source) : Nat := source.scalars.size

def isEmpty (source : Source) : Bool := source.scalars.isEmpty

def atEnd (source : Source) : Bool := source.position == source.size

/-- The source at another position; one beyond the end means the end. -/
def seek (source : Source) (position : Nat) : Source :=
  { source with
    position := min position source.scalars.size
    position_le := Nat.min_le_right _ _ }

theorem size_eq (source : Source) : source.size = source.text.length := by
  simp [size, source.scalars_eq, String.length_toList]

@[simp] theorem size_seek (source : Source) (position : Nat) :
    (source.seek position).size = source.size := rfl

@[simp] theorem position_seek (source : Source) (position : Nat) :
    (source.seek position).position = min position source.size := rfl

def peek (source : Source) : Option Char := source.scalars[source.position]?

def readAhead (source : Source) (count : Nat) : Option (List Char) :=
  if source.position + count ≤ source.size then
    some ((source.scalars.extract source.position (source.position + count)).toList)
  else none

def remaining (source : Source) : List Char :=
  (source.scalars.extract source.position source.size).toList

def advance (source : Source) (count : Nat) : Option Source :=
  if fits : source.position + count ≤ source.scalars.size then
    some { source with position := source.position + count, position_le := fits }
  else none

/-- The text between two positions. Positions beyond the end mean the end, and an end before the
start means the start. -/
def slice (source : Source) (span : Span) : String :=
  let start := min span.start source.size
  let stop := max (min span.stop source.size) start
  String.Pos.Raw.extract source.text ⟨source.offsets.getD start 0⟩ ⟨source.offsets.getD stop 0⟩

/-- The line and column of a position; one beyond the end means the end. -/
def location (source : Source) (position : Nat) : Location :=
  Location.locate source.scalars.toList (min position source.size)

end Source
end Peg
