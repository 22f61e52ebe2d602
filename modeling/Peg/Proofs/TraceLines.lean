import Peg.Expression.Compile
import Peg.Proofs.Sealing
import Peg.Proofs.Wording

/-! How many lines a trace is written on. Every step ends its line; any other line feed in the line of a step comes
from the description of its node, and so from a text or a name that the description writes out. -/

namespace Peg.Proofs

theorem renderStep_line (grammar : Grammar) (step : Step) : ∃ line, Trace.renderStep grammar step = line ++ "\n" ∧
    lineFeeds line = lineFeeds (grammar.describe step.node) := by
  have blanks (count : Nat) : lineFeeds (String.ofList (List.replicate count ' ')) = 0 := by
    simp [lineFeeds, List.count_replicate]
  have marks : ∀ mark ∈ [" ", " !! None", " => ", "..", " !! LimitExceeded (", ")", " !! ConsumeFailed",
      " !! NeglectFailed", " !! EndOfSource"], lineFeeds mark = 0 := by decide
  have limits (limit : Limit) : lineFeeds limit.name = 0 := by cases limit <;> rfl
  have inserted (text : String) : toString text = text := rfl
  simp only [List.forall_mem_cons] at marks
  refine ⟨_, rfl, ?_⟩
  cases verdict : step.verdict with
  | pending | matched stop => simp [blanks, marks, inserted]
  | failed kind => cases kind <;> simp [blanks, marks, limits, FailureKind.name, inserted]

theorem lines_of_steps (grammar : Grammar) (steps : List Step) : ∃ lines : List String,
    String.join (steps.map (Trace.renderStep grammar)) = String.join (lines.map (· ++ "\n")) ∧
    lines.map lineFeeds = steps.map fun step => lineFeeds (grammar.describe step.node) := by
  induction steps with
  | nil => exact ⟨[], rfl, rfl⟩
  | cons step steps ih =>
    obtain ⟨line, ends, feeds⟩ := renderStep_line grammar step
    obtain ⟨lines, rest, others⟩ := ih
    refine ⟨line :: lines, ?_, ?_⟩
    · rw [List.map_cons, List.map_cons, String.join_cons, String.join_cons, ends, rest]
    · rw [List.map_cons, List.map_cons, feeds, others]

theorem lineFeeds_lines (lines : List String) :
    lineFeeds (String.join (lines.map (· ++ "\n"))) = lines.length + (lines.map lineFeeds).sum := by
  have feed : lineFeeds "\n" = 1 := rfl
  induction lines with
  | nil => rfl
  | cons line lines ih =>
    rw [List.map_cons, String.join_cons, lineFeeds_append, ih, lineFeeds_append, feed, List.length_cons,
      List.map_cons, List.sum_cons]
    omega

/-- A trace is written on one line for each step, but for the line feeds in the descriptions of its nodes. It has as
many line feeds as steps exactly if no attempted node writes out a text or a name with a line feed. -/
theorem step_lines_make_up_trace (grammar : Grammar) (trace : Trace) :
    (∃ lines : List String, trace.render grammar = String.join (lines.map (· ++ "\n")) ∧
      lines.map lineFeeds = trace.steps.toList.map fun step => lineFeeds (grammar.describe step.node)) ∧
    lineFeeds (trace.render grammar) =
      trace.size + (trace.steps.toList.map fun step => lineFeeds (grammar.describe step.node)).sum ∧
    (lineFeeds (trace.render grammar) = trace.size ↔
      ∀ step ∈ trace.steps, ∀ text, grammar.WritesOut step.node text → lineFeeds text = 0) := by
  obtain ⟨lines, whole, described⟩ := lines_of_steps grammar trace.steps.toList
  have whole : trace.render grammar = String.join (lines.map (· ++ "\n")) := whole
  have one : lines.length = trace.size := by
    have same := congrArg List.length described
    rwa [List.length_map, List.length_map, Array.length_toList] at same
  have counted : lineFeeds (trace.render grammar) =
      trace.size + (trace.steps.toList.map fun step => lineFeeds (grammar.describe step.node)).sum := by
    rw [whole, lineFeeds_lines, one, described]
  refine ⟨⟨lines, whole, described⟩, counted, ?_⟩
  rw [counted, Nat.add_eq_left, List.sum_eq_zero_iff_forall_eq_nat, List.forall_mem_map]
  simp only [lineFeeds_describe_eq_zero_iff, Array.mem_toList_iff]

/-- A literal that goes over a line is written out as it is, so its one failed step takes two lines. -/
theorem literal_over_two_lines :
    ∃ grammar run trace, (Expression.literal "a\nb").compile = .ok grammar ∧
      grammar.parse "x" (some {}) = .ok run ∧ run.final.trace = some trace ∧ trace.size = 1 ∧
      trace.render grammar = "    0 \"a\nb\" !! ConsumeFailed\n" ∧ lineFeeds (trace.render grammar) = 2 := by
  have answers : (Expression.literal "a\nb").compile.toOption.any (fun grammar =>
      (grammar.parse "x" (some {})).toOption.any fun run => run.final.trace.any fun trace => trace.size == 1 &&
        trace.render grammar == "    0 \"a\nb\" !! ConsumeFailed\n") = true := by decide +kernel
  obtain ⟨grammar, compiled, answers⟩ := ok_of_any answers
  obtain ⟨run, ran, answers⟩ := ok_of_any answers
  obtain ⟨trace, kept, answers⟩ := (Option.any_eq_true _ _).mp answers
  obtain ⟨single, shown⟩ := Bool.and_eq_true_iff.mp answers
  have shown := eq_of_beq shown
  have twice : lineFeeds "    0 \"a\nb\" !! ConsumeFailed\n" = 2 := by decide
  exact ⟨grammar, run, trace, compiled, ran, kept, eq_of_beq single, shown, shown ▸ twice⟩

end Peg.Proofs
