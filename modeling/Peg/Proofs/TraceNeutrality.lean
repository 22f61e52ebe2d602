import Peg.Proofs.SpanRounds

/-! A trace is written and never read. Whether an evaluation keeps one, and what is in it, makes no difference to
the states it goes through but for the trace itself, so it returns in the same cases and tells the same. -/

namespace Peg

namespace Repetitions

/-- The answers to so many calls, one after the other, and what is left behind them. -/
def calls (repetitions : Repetitions) : Nat → Except Halt (List (Option Match) × Repetitions)
  | 0 => .ok ([], repetitions)
  | count + 1 => do
    let (found, rest) ← repetitions.next
    let (others, last) ← rest.calls count
    return (found :: others, last)

/-- What so many calls tell: their answers, and the position, the failure and the captures after the last. -/
def report (repetitions : Repetitions) (count : Nat) :
    Except Halt (List (Option Match) × Nat × Option Failure × Array (Option Span)) :=
  (repetitions.calls count).map fun (found, last) =>
    (found, last.rest.position, last.state.failure, last.state.captures)

def settle (repetitions : Repetitions) : Option Span × State → Option Match × Repetitions
  | (some span, after) =>
    if repetitions.state.position < span.stop then
      (some (Match.ofSpan repetitions.source none span), { repetitions with state := after })
    else (none, { repetitions with state := after, finished := true })
  | (none, after) => (none, { repetitions with state := after, finished := true })

end Repetitions

namespace Proofs

/-- Both are halted, for the same reason, or both answer, and the answers are related. -/
inductive Together {α : Type} (related : α → α → Prop) : Except Halt α → Except Halt α → Prop where
  | halted (halt : Halt) : Together related (.error halt) (.error halt)
  | answered {answer answer' : α} (alike : related answer answer') : Together related (.ok answer) (.ok answer')

inductive SameAnswer {α σ : Type} (related : σ → σ → Prop) : α × σ → α × σ → Prop where
  | intro {answer : α} {after ending : σ} (alike : related after ending) :
      SameAnswer related (answer, after) (answer, ending)

section Together
variable {α β : Type} {related : α → α → Prop} {related' : β → β → Prop} {first second : Except Halt α}

theorem Together.bind {next next' : α → Except Halt β} (together : Together related first second)
    (rest : ∀ answer answer', first = .ok answer → related answer answer' →
      Together related' (next answer) (next' answer')) : Together related' (first >>= next) (second >>= next') := by
  cases together with
  | halted halt => exact .halted halt
  | answered alike => exact rest _ _ rfl alike

theorem Together.map {tell tell' : α → β} (together : Together related first second)
    (rest : ∀ answer answer', related answer answer' → related' (tell answer) (tell' answer')) :
    Together related' (first.map tell) (second.map tell') := by
  cases together with
  | halted halt => exact .halted halt
  | answered alike => exact .answered (rest _ _ alike)

theorem eq_of_together (together : Together Eq first second) : first = second := by
  cases together with
  | halted => rfl
  | answered alike => exact congrArg Except.ok alike

end Together

/-- The same state with another trace, or with none. -/
inductive Retraced : State → State → Prop where
  | intro {state : State} (trace : Option Trace) : Retraced state { state with trace := trace }

section States
variable {setting : Setting} {state twin : State} {id : Nat}

theorem Retraced.symm (retraced : Retraced state twin) : Retraced twin state := by
  obtain ⟨_⟩ := retraced
  exact .intro state.trace

theorem Retraced.sound (retraced : Retraced state twin) (sound : Sound setting state) : Sound setting twin := by
  obtain ⟨_⟩ := retraced
  exact ⟨sound.inside, sound.explained⟩

theorem simulation_retraced (setting : Setting) : Simulation setting setting Retraced where
  node found := found
  scalars := rfl
  position | .intro _ => rfl
  aborted | .intro _ => rfl
  within | .intro _, below => below
  rewind | _, .intro _ => .intro _
  fail | _, _, .intro _ => .intro _
  keep | _, _, .intro _ => .intro _
  enter | _, .intro _ => .intro _
  leave | _, _, _, .intro _ => .intro _
  descend | .intro _ => .intro _
  ascend | .intro _ => .intro _

theorem aborts_retraced (setting : Setting) : AbortsAlike setting setting Retraced where
  beyond | .intro _, beyond => beyond
  abort | _, _, .intro _ => .intro _

theorem Retraced.evaluate {result : Option Span} {after : State} (retraced : Retraced state twin)
    (sound : Sound setting state) (answer : setting.evaluate id state = .ok (result, after)) :
    ∃ ending, setting.evaluate id twin = .ok (result, ending) ∧ Retraced after ending := by
  obtain ⟨ending, again, retraced'⟩ := (evaluates_of_eval answer).followed (simulation_retraced setting).lockstep
    trivial retraced (.inr (aborts_retraced setting))
  rw [shift_zero] at again
  exact ⟨ending, again.evaluate (retraced.sound sound), retraced'⟩

theorem Retraced.together (retraced : Retraced state twin) (known : id < setting.grammar.size)
    (sound : Sound setting state) :
    Together (SameAnswer Retraced) (setting.evaluate id state) (setting.evaluate id twin) := by
  cases answer : setting.evaluate id state with
  | ok found =>
    obtain ⟨ending, answer', retraced'⟩ := retraced.evaluate sound answer
    rw [answer']
    exact .answered (.intro retraced')
  | error halt =>
    cases answer' : setting.evaluate id twin with
    | ok found =>
      obtain ⟨_, again, _⟩ := retraced.symm.evaluate (retraced.sound sound) answer'
      cases answer.symm.trans again
    | error halt' =>
      obtain rfl := eval_error known answer
      obtain rfl := eval_error known answer'
      exact .halted _

/-- The first node is within every limit, so what is found out about it is that it is no node of the grammar. -/
theorem evaluate_unknown (unknown : setting.grammar.node? id = none) (position : Nat) (trace : Option Trace) :
    setting.evaluate id (State.initial setting.grammar position trace) = .error (.unknownNode id) := by
  obtain ⟨fuel, enough⟩ := Nat.exists_eq_add_of_le' (fuel_pos setting)
  have within : setting.limits.exceeded 1 0 = none := by
    apply Limits.exceeded_eq_none_iff.mpr
    unfold Limits.Offends
    omega
  simp only [Setting.evaluate, enough, eval, Eval.step, State.initial, State.enter, Nat.zero_add, within, unknown,
    Bool.false_eq_true, ite_false]

end States

/-- Repetitions in the same state but for the trace. -/
inductive RetracedRepetitions : Repetitions → Repetitions → Prop where
  | intro {repetitions : Repetitions} {state : State} (retraced : Retraced repetitions.state state) :
      RetracedRepetitions repetitions { repetitions with state := state }

/-- What holds of repetitions before each call. -/
structure Askable (repetitions : Repetitions) : Prop where
  known : repetitions.inner < repetitions.setting.grammar.size
  sound : Sound repetitions.setting repetitions.state

section Calls
variable {repetitions twin rest : Repetitions}

theorem SpanBehind.known {grammar : Grammar} {inner rules id : Nat} (behind : SpanBehind grammar inner rules id) :
    inner < grammar.size := by
  induction behind with
  | span found => exact child_known found inner List.mem_cons_self
  | rule _ _ ih => exact ih

theorem next_eq (running : ¬ repetitions.finished = true) : repetitions.next =
    (repetitions.setting.evaluate repetitions.inner repetitions.state).map repetitions.settle := by
  rw [Repetitions.next, if_neg running]
  cases repetitions.setting.evaluate repetitions.inner repetitions.state with
  | error halt => rfl
  | ok answer =>
    obtain ⟨_ | span, after⟩ := answer
    · rfl
    · dsimp only [Except.map, Repetitions.settle]
      split <;> rfl

theorem askable_settle (known : repetitions.inner < repetitions.setting.grammar.size) {answer : Option Span × State}
    (sound : Sound repetitions.setting answer.2) : Askable (repetitions.settle answer).2 := by
  obtain ⟨_ | span, after⟩ := answer
  · exact ⟨known, sound⟩
  · dsimp only [Repetitions.settle]
    split <;> exact ⟨known, sound⟩

theorem Askable.next {found : Option Match} (askable : Askable repetitions)
    (answer : repetitions.next = .ok (found, rest)) : Askable rest := by
  by_cases done : repetitions.finished = true
  · cases (next_finished _ done).symm.trans answer
    exact askable
  · rw [next_eq done] at answer
    cases evaluated : repetitions.setting.evaluate repetitions.inner repetitions.state with
    | error halt =>
      rw [evaluated] at answer
      cases answer
    | ok result =>
      have settled := askable_settle askable.known ((evaluates_of_eval evaluated).sound askable.sound)
      rw [evaluated] at answer
      rwa [Except.ok.inj answer] at settled

theorem settle_retraced (retraced : RetracedRepetitions repetitions twin) (answer answer' : Option Span × State)
    (same : SameAnswer Retraced answer answer') :
    SameAnswer RetracedRepetitions (repetitions.settle answer) (twin.settle answer') := by
  obtain ⟨⟨_⟩⟩ := retraced
  obtain @⟨result, _, _, alike⟩ := same
  cases result with
  | none => exact .intro (.intro alike)
  | some span =>
    dsimp only [Repetitions.settle]
    split <;> exact .intro (.intro alike)

theorem next_together (askable : Askable repetitions) (retraced : RetracedRepetitions repetitions twin) :
    Together (SameAnswer RetracedRepetitions) repetitions.next twin.next := by
  have both : twin.finished = repetitions.finished := by
    obtain ⟨_⟩ := retraced
    rfl
  by_cases done : repetitions.finished = true
  · rw [next_finished repetitions done, next_finished twin (both.trans done)]
    exact .answered (.intro retraced)
  · rw [next_eq done, next_eq (both ▸ done)]
    have settled := settle_retraced retraced
    obtain ⟨alike⟩ := retraced
    exact (alike.together askable.known askable.sound).map settled

theorem calls_together (askable : Askable repetitions) (retraced : RetracedRepetitions repetitions twin)
    (count : Nat) : Together (SameAnswer RetracedRepetitions) (repetitions.calls count) (twin.calls count) := by
  induction count generalizing repetitions twin with
  | zero => exact .answered (.intro retraced)
  | succ count ih =>
    apply (next_together askable retraced).bind
    rintro _ _ answer ⟨between⟩
    apply (ih (askable.next answer) between).bind
    rintro _ _ _ ⟨last⟩
    exact .answered (.intro last)

theorem report_eq (askable : Askable repetitions) (retraced : RetracedRepetitions repetitions twin) (count : Nat) :
    repetitions.report count = twin.report count := by
  apply eq_of_together
  apply (calls_together askable retraced count).map
  rintro _ _ ⟨⟨⟨_⟩⟩⟩
  rfl

end Calls

section Runs
variable (grammar : Grammar) (limits : Limits) (id : Nat) (source : Source)

theorem retraced_initial (position : Nat) (trace trace' : Option Trace) :
    Retraced (State.initial grammar position trace) (State.initial grammar position trace') :=
  .intro trace'

theorem outcome_of_evaluate (trace : Option Trace) : (grammar.runWith limits id source trace).map Run.outcome =
    (Setting.evaluate ⟨grammar, source.scalars, limits⟩ id (State.initial grammar source.position trace)).map
      fun (result, final) => Run.outcome ⟨grammar, source, id, result, final⟩ := by
  unfold Grammar.runWith
  dsimp only
  cases Setting.evaluate ⟨grammar, source.scalars, limits⟩ id (State.initial grammar source.position trace) <;> rfl

theorem outcome_eq (trace trace' : Option Trace) : (grammar.runWith limits id source trace).map Run.outcome =
    (grammar.runWith limits id source trace').map Run.outcome := by
  rw [outcome_of_evaluate, outcome_of_evaluate]
  cases found : grammar.node? id with
  | none => rw [evaluate_unknown found, evaluate_unknown found]
  | some node =>
    have known : id < grammar.size := (Array.getElem?_eq_some_iff.mp found).1
    have sound := sound_initial ⟨grammar, source.scalars, limits⟩ source.position_le trace
    apply eq_of_together
    apply ((retraced_initial grammar source.position trace trace').together known sound).map
    rintro _ _ ⟨⟨_⟩⟩
    rfl

end Runs

/-- With a trace, whatever is in it already, and without one, a run of any node returns in the same cases and has
the same outcome. So do the repetitions of a span, however often they are asked for. -/
theorem trace_has_no_influence (grammar : Grammar) (limits : Limits) (id : Nat) (source : Source) (trace : Trace) :
    (grammar.runWith limits id source (some trace)).map Run.outcome =
      (grammar.runWith limits id source none).map Run.outcome ∧
    ∀ count, (grammar.repetitions limits id source (some trace)).map (·.report count) =
      (grammar.repetitions limits id source none).map (·.report count) := by
  refine ⟨outcome_eq grammar limits id source (some trace) none, ?_⟩
  intro count
  unfold Grammar.repetitions
  cases found : grammar.spanInner? (grammar.size + 1) id with
  | none => rfl
  | some inner =>
    obtain ⟨rules, behind⟩ := spanBehind_of_spanInner? found
    have sound := sound_initial ⟨grammar, source.scalars, limits⟩ source.position_le (some trace)
    exact congrArg Except.ok (report_eq ⟨behind.known, sound⟩ (.intro (retraced_initial grammar _ _ none)) count)

end Proofs
end Peg
