import Peg.Grammar.Node
import Peg.Text.Escaped

/-! Nodes in full view, with every character of a name made visible. -/

namespace Peg.Node

/-- A node that tests one character. The test itself has no written form. -/
def inspect? : Node → Option String
  | .checker name _ =>
    some ("Checker(CheckerNode \x7b name: " ++ Text.Escaped.encode name ++ ", .. \x7d)")
  | _ => none

end Peg.Node
