import Peg.Proofs.Derivation
import Peg.Proofs.Evaluation

/-! A pattern that does not match gives its position back. The property is proved of every call that
a run makes, however deep, and needs only two facts about the state of the caller: it stands inside
the text, and an aborted run has a failure to show for it. -/

namespace Peg.Proofs

/-- The node returns from this state, whatever fuel that takes. -/
def Returns (setting : Setting) (id : Nat) (state : State) (result : Option Span) (after : State) :
    Prop :=
  ∃ fuel, eval setting fuel id state = .ok (result, after)

/-- The calls that an evaluation makes: the node and the state in which it is called. A call need
not return, and neither need the evaluation that makes it. -/
inductive Calls (setting : Setting) : Task → State → Nat → State → Prop where
  | self {id state} : Calls setting (.visit id) state id state
  | entered {id node state callee entry} (running : state.aborted = false)
      (within : setting.limits.exceeded (state.steps + 1) state.depth = none)
      (found : setting.grammar.node? id = some node)
      (parts : Calls setting (.parts id node) (state.enter id).descend callee entry) :
      Calls setting (.visit id) state callee entry
  | sequence_left {id left right state callee entry}
      (first : Calls setting (.visit left) state callee entry) :
      Calls setting (.parts id (.sequence left right)) state callee entry
  | sequence_right {id left right state span middle callee entry}
      (first : Returns setting left state (some span) middle)
      (second : Calls setting (.visit right) middle callee entry) :
      Calls setting (.parts id (.sequence left right)) state callee entry
  | choice_left {id left right state callee entry}
      (first : Calls setting (.visit left) state callee entry) :
      Calls setting (.parts id (.choice left right)) state callee entry
  | choice_right {id left right state middle callee entry}
      (first : Returns setting left state none middle)
      (second : Calls setting (.visit right) (middle.rewind state.position) callee entry) :
      Calls setting (.parts id (.choice left right)) state callee entry
  | negate {id inner state callee entry} (call : Calls setting (.visit inner) state callee entry) :
      Calls setting (.parts id (.negate inner)) state callee entry
  | optional {id inner state callee entry} (call : Calls setting (.visit inner) state callee entry) :
      Calls setting (.parts id (.optional inner)) state callee entry
  | times {id inner count state callee entry}
      (call : Calls setting (.times inner state.position count) state callee entry) :
      Calls setting (.parts id (.times inner count)) state callee entry
  | times_first {inner start count state callee entry}
      (call : Calls setting (.visit inner) state callee entry) :
      Calls setting (.times inner start (count + 1)) state callee entry
  | times_next {inner start count state span middle callee entry}
      (first : Returns setting inner state (some span) middle)
      (rest : Calls setting (.times inner start count) middle callee entry) :
      Calls setting (.times inner start (count + 1)) state callee entry
  | span {id inner state callee entry}
      (call : Calls setting (.span inner state.position) state callee entry) :
      Calls setting (.parts id (.span inner)) state callee entry
  | span_first {inner start state callee entry}
      (call : Calls setting (.visit inner) state callee entry) :
      Calls setting (.span inner start) state callee entry
  | span_next {inner start state last middle callee entry}
      (first : Returns setting inner state (some last) middle)
      (moved : state.position < last.stop)
      (rest : Calls setting (.span inner start) middle callee entry) :
      Calls setting (.span inner start) state callee entry
  | capture {id inner slot state callee entry}
      (call : Calls setting (.visit inner) state callee entry) :
      Calls setting (.parts id (.capture inner slot)) state callee entry
  | rule {id name target state callee entry}
      (call : Calls setting (.visit target) state callee entry) :
      Calls setting (.parts id (.rule name target)) state callee entry

section Completeness
variable {setting : Setting} {fuel : Nat} {visit : Nat → State → Result}

private abbrev Agrees (setting : Setting) (fuel : Nat) (visit : Nat → State → Result) (task : Task)
    (state : State) : Prop :=
  ∀ callee entry, Calls setting task state callee entry →
    visit callee entry = eval setting fuel callee entry

private theorem times_agrees {inner start count : Nat} {state : State}
    (agrees : Agrees setting fuel visit (.times inner start count) state) :
    Eval.times (visit inner) start count state = Eval.times (eval setting fuel inner) start count state := by
  induction count generalizing state with
  | zero => rfl
  | succ count ih =>
    simp only [Eval.times, agrees inner state (.times_first .self)]
    split
    · rfl
    · rfl
    next first => exact ih fun callee entry call => agrees callee entry (.times_next ⟨fuel, first⟩ call)

private theorem span_agrees {inner start rounds : Nat} {state : State}
    (agrees : Agrees setting fuel visit (.span inner start) state) :
    Eval.span (visit inner) start rounds state = Eval.span (eval setting fuel inner) start rounds state := by
  induction rounds generalizing state with
  | zero => rfl
  | succ rounds ih =>
    simp only [Eval.span, agrees inner state (.span_first .self)]
    split
    · rfl
    next first =>
      split
      next moved =>
        exact ih fun callee entry call => agrees callee entry (.span_next ⟨fuel, first⟩ moved call)
      · rfl
    · rfl

/-- No call is missing: an entered node depends on the answers to these calls alone. -/
theorem node_agrees {id : Nat} {node : Node} {state : State}
    (agrees : ∀ callee entry, Calls setting (.parts id node) state callee entry →
      visit callee entry = eval setting fuel callee entry) :
    Eval.node setting visit id node state = Eval.node setting (eval setting fuel) id node state := by
  cases node with
  | literal | checker => rfl
  | sequence left right =>
    simp only [Eval.node, Eval.sequence, agrees left state (.sequence_left .self)]
    split
    · rfl
    · rfl
    next first => rw [agrees right _ (.sequence_right ⟨fuel, first⟩ .self)]
  | choice left right =>
    simp only [Eval.node, Eval.choice, agrees left state (.choice_left .self)]
    split
    · rfl
    · rfl
    next first => exact agrees right _ (.choice_right ⟨fuel, first⟩ .self)
  | negate inner => simp only [Eval.node, Eval.negate, agrees inner state (.negate .self)]
  | optional inner => simp only [Eval.node, Eval.optional, agrees inner state (.optional .self)]
  | times inner count => exact times_agrees fun callee entry call => agrees callee entry (.times call)
  | span inner => exact span_agrees fun callee entry call => agrees callee entry (.span call)
  | capture inner slot => simp only [Eval.node, Eval.capture, agrees inner state (.capture .self)]
  | rule name target => exact agrees target state (.rule .self)

end Completeness

/-- The states of a process while it evaluates nothing: before its first node, and after each node
that it was asked to evaluate, as for successive repetitions. -/
inductive Idle (setting : Setting) : State → Prop where
  | initial {position} (trace : Option Trace) (inside : position ≤ setting.scalars.size) :
      Idle setting (State.initial setting.grammar position trace)
  | returned {id state result after} (idle : Idle setting state)
      (ran : Returns setting id state result after) : Idle setting after

/-- A match starts where the evaluation was entered and ends where it leaves the position. A failure
leaves the position where it was and can be told. Either way no level of nesting is left over. -/
structure Rollback (setting : Setting) (origin : Nat) (state : State) (result : Option Span)
    (after : State) : Prop where
  depth : after.depth = state.depth
  matched : ∀ span, result = some span → span.start = origin ∧ state.position ≤ span.stop ∧
    span.stop ≤ setting.scalars.size ∧ after.position = span.stop
  failed : result = none → after.position = origin ∧ ∃ failure, after.failure = some failure

structure Sound (setting : Setting) (state : State) : Prop where
  inside : state.position ≤ setting.scalars.size
  explained : state.aborted = true → ∃ failure, state.failure = some failure

/-- A property that no update of the state destroys. A limit ends a run only where it is exceeded,
and no other failure is that of a limit. -/
structure Kept (setting : Setting) (property : State → Prop) : Prop where
  rewind : ∀ {state} position, property state → property (state.rewind position)
  fail : ∀ {state} {kind : FailureKind} node, kind.limit? = none → property state →
    property (state.fail kind node).2
  abort : ∀ {state} {steps depth limit} node, setting.limits.exceeded steps depth = some limit →
    property state → property (state.abort limit node)
  keep : ∀ {state} slot span, property state → property (state.keep slot span)
  enter : ∀ {state} node, property state → property (state.enter node)
  leave : ∀ {state} index result, property state → property (state.leave index result)
  descend : ∀ {state : State}, property state → property state.descend
  ascend : ∀ {state : State}, property state → property state.ascend

theorem limit_literalFailure {casing : CaseRule} {scalars : Array Char} {chars : List Char}
    {position : Nat} {kind : FailureKind}
    (failed : Eval.literalFailure casing scalars chars position = some kind) : kind.limit? = none := by
  induction chars generalizing position with
  | nil => cases failed
  | cons expected rest ih =>
    unfold Eval.literalFailure at failed
    split at failed
    · cases failed
      rfl
    · split at failed
      · exact ih failed
      · cases failed
        rfl

theorem Evaluates.keeps {setting : Setting} {property : State → Prop} (kept : Kept setting property)
    {height task state result after} (evaluation : Evaluates setting height task state result after)
    (holds : property state) : property after := by
  induction evaluation with
  | halted _ | times_done => exact holds
  | exceeded _ beyond => exact kept.leave _ _ (kept.abort _ beyond (kept.enter _ holds))
  | entered _ _ _ _ ih => exact kept.leave _ _ (kept.ascend (ih (kept.descend (kept.enter _ holds))))
  | literal_fail failed => exact kept.fail _ (limit_literalFailure failed) holds
  | literal _ | checker _ _ => exact kept.rewind _ holds
  | checker_end _ | checker_fail _ _ => exact kept.fail _ rfl holds
  | sequence_left _ ih | times_fail _ ih | span_aborted _ _ ih | optional_empty _ _ ih =>
    exact kept.rewind _ (ih holds)
  | sequence_right _ _ first second => exact kept.rewind _ (second (first holds))
  | sequence _ _ first second | times_next _ _ first second | span_next _ _ _ first second =>
    exact second (first holds)
  | choice_right _ _ first second => exact second (kept.rewind _ (first holds))
  | negate_found _ ih => exact kept.fail _ rfl (kept.rewind _ (ih holds))
  | choice_left _ ih | negate_aborted _ _ ih | negate _ _ ih | optional _ ih
  | optional_aborted _ _ ih | times _ ih | span _ ih | span_still _ _ ih | span_end _ _ ih
  | capture_fail _ ih | rule _ ih => exact ih holds
  | capture _ ih => exact kept.keep _ _ (ih holds)

theorem Evaluates.stays_aborted {setting height task state result after}
    (evaluation : Evaluates setting height task state result after)
    (aborted : state.aborted = true) : after.aborted = true := by
  have kept : Kept setting fun state => state.aborted = true := by
    constructor <;> intros <;> first | assumption | rfl
  exact evaluation.keeps kept aborted

theorem Evaluates.stays_unlimited {setting height task state result after}
    (evaluation : Evaluates setting height task state result after)
    (unlimited : ∀ failure, state.failure = some failure → failure.kind.limit? = none)
    (running : after.aborted = false) :
    ∀ failure, after.failure = some failure → failure.kind.limit? = none := by
  have kept : Kept setting fun state => state.aborted = false →
      ∀ failure, state.failure = some failure → failure.kind.limit? = none := by
    constructor
    case fail =>
      intro state kind node harmless holds running failure found
      cases found
      exact harmless
    case abort =>
      intro state steps depth limit node beyond holds running
      cases running
    all_goals intros; solve_by_elim
  apply evaluation.keeps kept
  · intro _
    exact unlimited
  · exact running

theorem Evaluates.stays_running {setting height task state result after}
    (evaluation : Evaluates setting height task state result after)
    (unlimited : ∀ steps depth, setting.limits.exceeded steps depth = none)
    (running : state.aborted = false) : after.aborted = false := by
  have kept : Kept setting fun state => state.aborted = false := by
    constructor
    case abort =>
      intro state steps depth limit node beyond
      rw [unlimited] at beyond
      cases beyond
    all_goals intros; assumption
  exact evaluation.keeps kept running

theorem Evaluates.stays_explained {setting height task state result after}
    (evaluation : Evaluates setting height task state result after)
    (explained : state.aborted = true → ∃ failure, state.failure = some failure) :
    after.aborted = true → ∃ failure, after.failure = some failure := by
  have kept : Kept setting fun state => state.aborted = true → ∃ failure, state.failure = some failure := by
    constructor
    case fail | abort =>
      intros
      exact ⟨_, rfl⟩
    all_goals intros; solve_by_elim
  exact evaluation.keeps kept explained

theorem literalFailure_eq_none_iff {casing : CaseRule} {scalars : Array Char} {chars : List Char}
    {position : Nat} : Eval.literalFailure casing scalars chars position = none ↔
      Spelled casing scalars chars position := by
  induction chars generalizing position with
  | nil => exact ⟨fun _ => spelled_nil, fun _ => rfl⟩
  | cons expected rest ih =>
    rw [spelled_cons, ← ih, Eval.literalFailure]
    cases seen : scalars[position]? with
    | none => simp
    | some actual => cases agrees : casing.agrees expected actual <;> simp [agrees]

def Task.origin : Task → State → Nat
  | .times _ start _, _ | .span _ start, _ => start
  | .visit _, state | .parts _ _, state => state.position

theorem Rollback.of_failure {setting origin state after} (depth : after.depth = state.depth)
    (back : after.position = origin) (told : ∃ failure, after.failure = some failure) :
    Rollback setting origin state none after := by
  refine ⟨depth, ?_, fun _ => ⟨back, told⟩⟩
  intro span impossible
  cases impossible

theorem Rollback.of_match {setting origin state after stop} (depth : after.depth = state.depth)
    (ends : after.position = stop) (forward : state.position ≤ stop)
    (inside : stop ≤ setting.scalars.size) :
    Rollback setting origin state (some ⟨origin, stop⟩) after := by
  refine ⟨depth, ?_, ?_⟩
  · intro span found
    cases found
    exact ⟨rfl, forward, inside, ends⟩
  · intro impossible
    cases impossible

theorem Rollback.rewind {setting origin state middle after} (depth : middle.depth = state.depth)
    (failed : Rollback setting middle.position middle none after) :
    Rollback setting origin state none (after.rewind origin) :=
  .of_failure (failed.depth.trans depth) rfl (failed.failed rfl).2

theorem Rollback.extend {setting origin state span middle result after}
    (first : Rollback setting state.position state (some span) middle)
    (rest : Rollback setting origin middle result after) : Rollback setting origin state result after := by
  refine ⟨rest.depth.trans first.depth, ?_, rest.failed⟩
  intro last found
  obtain ⟨_, forward, _, moved⟩ := first.matched span rfl
  obtain ⟨starts, later, inside, ends⟩ := rest.matched last found
  exact ⟨starts, by omega, inside, ends⟩

theorem Rollback.sound {setting height id state result after}
    (rollback : Rollback setting state.position state result after)
    (evaluation : Evaluates setting height (.visit id) state result after)
    (sound : Sound setting state) : Sound setting after := by
  refine ⟨?_, evaluation.stays_explained sound.explained⟩
  cases result with
  | none =>
    rw [(rollback.failed rfl).1]
    exact sound.inside
  | some span =>
    obtain ⟨_, _, inside, ends⟩ := rollback.matched span rfl
    omega

theorem Evaluates.rollback {setting height task state result after}
    (evaluation : Evaluates setting height task state result after) (sound : Sound setting state) :
    Rollback setting (task.origin state) state result after := by
  -- Only the first part of a node has the caller's guarantee; a later one gets it from the rollback
  -- of the part before.
  induction evaluation with
  | halted aborted => exact .of_failure rfl rfl (sound.explained aborted)
  | exceeded _ _ => exact .of_failure rfl rfl ⟨_, rfl⟩
  | @entered _ _ _ before _ last _ _ _ _ ih =>
    have inner := ih ⟨sound.inside, sound.explained⟩
    have depth : last.depth - 1 = before.depth := by rw [inner.depth]; rfl
    exact ⟨depth, inner.matched, inner.failed⟩
  | literal_fail _ | checker_end _ | checker_fail _ _ => exact .of_failure rfl rfl ⟨_, rfl⟩
  | literal agrees =>
    have inside := (literalFailure_eq_none_iff.mp agrees).inside sound.inside
    rw [String.length_toList] at inside
    exact .of_match rfl rfl (Nat.le_add_right _ _) inside
  | checker seen _ =>
    exact .of_match rfl rfl (Nat.le_add_right _ _) (Array.getElem?_eq_some_iff.mp seen).1
  | sequence_left _ ih => exact .rewind rfl (ih sound)
  | sequence_right first _ ih ih' =>
    have before := ih sound
    exact .rewind before.depth (ih' (before.sound first sound))
  | sequence first _ ih ih' =>
    have before := ih sound
    have both := before.extend (ih' (before.sound first sound))
    obtain ⟨_, forward, inside, ends⟩ := both.matched _ rfl
    exact .of_match both.depth ends forward inside
  | choice_left _ ih | rule _ ih | capture_fail _ ih | negate_aborted _ _ ih | optional _ ih
  | optional_aborted _ _ ih | times _ ih | span _ ih => exact ih sound
  | choice_right first _ ih ih' =>
    have before := ih sound
    have again := ih' ⟨sound.inside, first.stays_explained sound.explained⟩
    exact ⟨again.depth.trans before.depth, again.matched, again.failed⟩
  | negate_found _ ih => exact .of_failure (ih sound).depth rfl ⟨_, rfl⟩
  | negate _ _ ih =>
    exact .of_match (ih sound).depth ((ih sound).failed rfl).1 (Nat.le_refl _) sound.inside
  | optional_empty _ _ ih => exact .of_match (ih sound).depth rfl (Nat.le_refl _) sound.inside
  | times_done => exact .of_match rfl rfl (Nat.le_refl _) sound.inside
  | times_fail _ ih | span_aborted _ _ ih => exact .rewind rfl (ih sound)
  | times_next first _ ih ih' | span_next first _ _ ih ih' =>
    have before := ih sound
    exact before.extend (ih' (before.sound first sound))
  | span_still final _ ih =>
    obtain ⟨_, forward, inside, ends⟩ := (ih sound).matched _ rfl
    exact .of_match (ih sound).depth rfl (ends ▸ forward) (ends ▸ inside)
  | span_end _ _ ih =>
    have back := ((ih sound).failed rfl).1
    exact .of_match (ih sound).depth rfl (Nat.le_of_eq back.symm) (back ▸ sound.inside)
  | capture _ ih =>
    have inner := ih sound
    exact ⟨inner.depth, inner.matched, inner.failed⟩

theorem Evaluates.sound {setting height id state result after}
    (evaluation : Evaluates setting height (.visit id) state result after)
    (sound : Sound setting state) : Sound setting after :=
  (evaluation.rollback sound).sound evaluation sound

theorem Returns.evaluates {setting id state result after}
    (returned : Returns setting id state result after) :
    ∃ height, Evaluates setting height (.visit id) state result after := by
  obtain ⟨fuel, evaluated⟩ := returned
  exact ⟨fuel, evaluates_of_eval evaluated⟩

theorem Returns.sound {setting id state result after}
    (returned : Returns setting id state result after) (sound : Sound setting state) :
    Sound setting after := by
  obtain ⟨_, evaluation⟩ := returned.evaluates
  exact evaluation.sound sound

theorem sound_initial (setting : Setting) {position : Nat} (inside : position ≤ setting.scalars.size)
    (trace : Option Trace) : Sound setting (State.initial setting.grammar position trace) := by
  refine ⟨inside, ?_⟩
  intro impossible
  cases impossible

theorem Idle.sound {setting state} (idle : Idle setting state) : Sound setting state := by
  induction idle with
  | initial trace inside => exact sound_initial setting inside trace
  | returned _ ran ih => exact ran.sound ih

theorem Calls.sound {setting task state callee entry}
    (called : Calls setting task state callee entry) (sound : Sound setting state) :
    Sound setting entry := by
  induction called with
  | self => exact sound
  | entered _ _ _ _ ih => exact ih ⟨sound.inside, sound.explained⟩
  | sequence_right first _ ih | times_next first _ ih | span_next first _ _ ih =>
    exact ih (first.sound sound)
  | choice_right first _ ih => exact ih ⟨sound.inside, (first.sound sound).explained⟩
  | sequence_left _ ih | choice_left _ ih | negate _ ih | optional _ ih | times _ ih
  | times_first _ ih | span _ ih | span_first _ ih | capture _ ih | rule _ ih => exact ih sound

/-- Every call of a run keeps to its side of the protocol, the outermost one and every nested one,
under any limits, with a trace and without, and whether or not the run as a whole comes to an end. -/
theorem every_call_rolls_back {setting : Setting} {start state after : State} {caller id : Nat}
    {result : Option Span} (idle : Idle setting start)
    (called : Calls setting (.visit caller) start id state)
    (returned : Returns setting id state result after) :
    Rollback setting state.position state result after := by
  obtain ⟨_, evaluation⟩ := returned.evaluates
  exact evaluation.rollback (called.sound idle.sound)

/-- Parentheses in each other: `nested = "(" nested? ")"`. -/
def nestedNodes : Array Node :=
  #[.rule "nested" 5, .literal "(" .sensitive, .optional 0, .literal ")" .sensitive,
    .sequence 1 2, .sequence 4 3]

theorem fits_nestedNodes : ∀ place : Fin 6, ∀ child ∈ nestedNodes[place].children,
    child < 6 ∧ (nestedNodes[place].isRule = false → child < place.val) := by
  decide

def nested : Grammar where
  nodes := nestedNodes
  root := 0
  captureNames := #[]
  root_lt := by decide
  fits := by
    intro id node found
    obtain ⟨inside, rfl⟩ := Array.getElem?_eq_some_iff.mp found
    exact fits_nestedNodes ⟨id, inside⟩

/-- The limit strikes two levels below the optional parentheses that stand behind the first one. -/
theorem aborted_call_rolls_back :
    let setting : Setting := ⟨nested, #['(', '(', ')', ')'], ⟨5, 0⟩⟩
    let start := State.initial nested 0 (some {})
    ∃ entry after, Idle setting start ∧ Calls setting (.visit 0) start 2 entry ∧
      Returns setting 2 entry none after ∧ after.aborted = true ∧ entry.position = 1 ∧
      Rollback setting entry.position entry none after := by
  intro setting start
  have idle : Idle setting start := .initial _ (Nat.zero_le _)
  have called : Calls setting (.visit 0) start 2 _ :=
    .entered rfl rfl rfl (.rule (.entered rfl rfl rfl (.sequence_left (.entered rfl rfl rfl
      (.sequence_right ⟨1, rfl⟩ .self)))))
  exact ⟨_, _, idle, called, ⟨4, rfl⟩, rfl, rfl, every_call_rolls_back idle called ⟨4, rfl⟩⟩

end Peg.Proofs
