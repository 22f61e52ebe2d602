import Peg.Matching.Event
import Peg.Matching.Outcome

/-! Successive matches in a text, from left to right and without overlap. -/

namespace Peg

/-- A search through a text: where the next attempt starts, and what the attempts so far have
reported. -/
structure Scan where
  grammar : Grammar
  source : Source
  nextStart : Nat := 0
  journal : Array Event := #[]

namespace Scan

/-- Where the search goes on after a match: at its end, or one character further if it is empty. -/
def resume (span : Span) : Nat := if span.isEmpty then span.stop + 1 else span.stop

/-- The next match. Where the root does not match, the search moves on by one character; it is over
when it has moved beyond the end. -/
def next (scan : Scan) : Except Halt (Option Match × Scan) :=
  if scan.nextStart ≤ scan.source.size then
    match scan.grammar.consume (scan.source.seek scan.nextStart) none with
    | .error halt => .error halt
    | .ok run =>
      let journal := scan.journal ++ run.events
      match run.result with
      | some span =>
        .ok (some (Match.ofSpan scan.source none span),
          { scan with nextStart := resume span, journal := journal })
      | none => next { scan with nextStart := scan.nextStart + 1, journal := journal }
  else .ok (none, scan)
termination_by scan.source.size + 1 - scan.nextStart

def take (scan : Scan) : Nat → Except Halt (List Match × Scan)
  | 0 => .ok ([], scan)
  | count + 1 =>
    match scan.next with
    | .error halt => .error halt
    | .ok (none, rest) => .ok ([], rest)
    | .ok (some found, rest) =>
      match rest.take count with
      | .error halt => .error halt
      | .ok (others, last) => .ok (found :: others, last)

/-- All further matches. A match starts at no earlier position than the one before it ends, and
two of them never start together, so there is at most one for each position. -/
def toList (scan : Scan) : Except Halt (List Match) :=
  (scan.take (scan.source.size + 1)).map (·.1)

end Scan

namespace Grammar

def scan (grammar : Grammar) (text : String) : Scan where
  grammar := grammar
  source := Source.ofString text

def findAll (grammar : Grammar) (text : String) : Except Halt (List Match) :=
  (grammar.scan text).toList

def find (grammar : Grammar) (text : String) : Except Halt (Option Match) :=
  (grammar.scan text).next.map (·.1)

end Grammar
end Peg
