import Peg.Unicode.Interval

/-! The Unicode property White_Space. -/

namespace Peg.Unicode

/-- All white space, from the tabulator to the ideographic space. -/
def whiteSpace : List Interval :=
  [⟨0x9, 0xD⟩, ⟨0x20, 0x20⟩, ⟨0x85, 0x85⟩, ⟨0xA0, 0xA0⟩, ⟨0x1680, 0x1680⟩, ⟨0x2000, 0x200A⟩,
   ⟨0x2028, 0x2029⟩, ⟨0x202F, 0x202F⟩, ⟨0x205F, 0x205F⟩, ⟨0x3000, 0x3000⟩]

theorem increasing_whiteSpace : Interval.Increasing whiteSpace := by
  decide +kernel

def isWhiteSpace (c : Char) : Bool :=
  Interval.covers whiteSpace c.toNat

theorem isWhiteSpace_iff (c : Char) : isWhiteSpace c = true ↔ Interval.Within whiteSpace c.toNat :=
  Interval.covers_iff increasing_whiteSpace c.toNat

end Peg.Unicode
