import Peg.Grammar.Description

/-! Why a pattern did not match. A run keeps its latest failure as a plain value and puts it into
words only when the failure is raised. -/

namespace Peg

inductive FailureKind where
  /-- A literal or a tested character was not found. -/
  | mismatch
  /-- A negated pattern was found. -/
  | forbidden
  /-- The text ended too early. -/
  | endOfSource
  /-- The run was aborted by one of its limits. -/
  | limitExceeded (limit : Limit)
deriving Repr, DecidableEq

namespace FailureKind

def name : FailureKind → String
  | .mismatch => "ConsumeFailed"
  | .forbidden => "NeglectFailed"
  | .endOfSource => "EndOfSource"
  | .limitExceeded _ => "LimitExceeded"

def limit? : FailureKind → Option Limit
  | .limitExceeded limit => some limit
  | _ => none

end FailureKind

/-- The node that failed and the position at which it was tried. For a forbidden match the node is
the negation. -/
structure Failure where
  kind : FailureKind
  node : Nat
  position : Nat
deriving Repr, DecidableEq

inductive MatchError where
  | mismatch (expected : String) (position : Nat)
  | forbidden (pattern : String) (position : Nat)
  | endOfSource (expected : String) (position : Nat)
  | limitExceeded (limit : Limit) (position : Nat)
deriving Repr, DecidableEq

namespace MatchError

def kind : MatchError → FailureKind
  | .mismatch _ _ => .mismatch
  | .forbidden _ _ => .forbidden
  | .endOfSource _ _ => .endOfSource
  | .limitExceeded limit _ => .limitExceeded limit

def position : MatchError → Nat
  | .mismatch _ position | .forbidden _ position | .endOfSource _ position
  | .limitExceeded _ position => position

def message : MatchError → String
  | .mismatch expected position => s!"Expect {expected} at position {position}."
  | .forbidden pattern position => s!"Unexpected {pattern} at position {position}."
  | .endOfSource expected position =>
    s!"Unexpected end of source at position {position}, expect {expected}."
  | .limitExceeded limit position =>
    s!"Process aborted at position {position}, the {limit.name} is exceeded."

end MatchError

def Failure.raise (failure : Failure) (grammar : Grammar) : MatchError :=
  match failure.kind with
  | .mismatch => .mismatch (grammar.describe failure.node) failure.position
  | .forbidden => .forbidden (grammar.describeNegated failure.node) failure.position
  | .endOfSource => .endOfSource (grammar.describe failure.node) failure.position
  | .limitExceeded limit => .limitExceeded limit failure.position

@[simp] theorem kind_raise (failure : Failure) (grammar : Grammar) :
    (failure.raise grammar).kind = failure.kind := by
  unfold Failure.raise
  split <;> simp only [MatchError.kind, *]

@[simp] theorem position_raise (failure : Failure) (grammar : Grammar) :
    (failure.raise grammar).position = failure.position := by
  unfold Failure.raise
  split <;> rfl

end Peg
