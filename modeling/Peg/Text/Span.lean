/-! Regions of a text, counted in characters. -/

namespace Peg

/-- The characters from `start` up to, and without, `stop`. -/
structure Span where
  start : Nat
  stop : Nat
deriving Repr, DecidableEq

namespace Span

def empty (position : Nat) : Span := ⟨position, position⟩

def size (span : Span) : Nat := span.stop - span.start

def isEmpty (span : Span) : Bool := span.start == span.stop

end Span
end Peg
