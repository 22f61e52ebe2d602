import Peg.Matching.Eval

/-! A run of a grammar on a source: from the position of the source, at the root or at another
node, under the limits of the grammar or under others. -/

namespace Peg

structure Run where
  grammar : Grammar
  start : Source
  node : Nat
  result : Option Span
  final : State

namespace Run

/-- The source as the run leaves it: after a match, or where it was. -/
def source (run : Run) : Source := run.start.seek run.final.position

def isSuccess (run : Run) : Bool := run.result.isSome

/-- The run matched and left nothing of the text. -/
def isMatch (run : Run) : Bool := run.isSuccess && run.source.atEnd

end Run

namespace Grammar

def runWith (grammar : Grammar) (limits : Limits) (node : Nat) (source : Source)
    (trace : Option Trace) : Except Halt Run :=
  let setting : Setting := ⟨grammar, source.scalars, limits⟩
  match setting.evaluate node (State.initial grammar source.position trace) with
  | .error halt => .error halt
  | .ok (result, final) => .ok ⟨grammar, source, node, result, final⟩

def consumeNode (grammar : Grammar) (node : Nat) (source : Source) (trace : Option Trace) :
    Except Halt Run :=
  grammar.runWith grammar.limits node source trace

def consume (grammar : Grammar) (source : Source) (trace : Option Trace) : Except Halt Run :=
  grammar.consumeNode grammar.root source trace

def parse (grammar : Grammar) (text : String) (trace : Option Trace) : Except Halt Run :=
  grammar.consume (Source.ofString text) trace

def isMatch (grammar : Grammar) (text : String) : Except Halt Bool :=
  (grammar.parse text none).map Run.isMatch

end Grammar
end Peg
