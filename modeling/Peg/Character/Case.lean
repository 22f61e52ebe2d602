import Peg.Unicode.Lowercase

/-! Comparing characters with or without regard to case. -/

namespace Peg

/-- How the characters of a literal are compared with the text. -/
inductive CaseRule where
  | sensitive
  | insensitive
deriving Repr, DecidableEq

namespace CaseRule

/-- Without regard to case two characters agree when their lowercase sequences do. -/
def agrees (rule : CaseRule) (expected actual : Char) : Bool :=
  match rule with
  | .sensitive => expected == actual
  | .insensitive => expected == actual || Unicode.lowercase expected == Unicode.lowercase actual

end CaseRule
end Peg
