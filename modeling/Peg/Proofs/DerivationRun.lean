import Peg.Proofs.Adequacy

/-! Evaluations and derivations give the same results. An evaluation that is not aborted is a
derivation of the same height, and a derivation is an evaluation wherever the limits leave room for
its height. -/

namespace Peg.Proofs

/-- The derivation that an evaluation stands for. -/
def Task.Derived (setting : Setting) (height : Nat) (task : Task) (state : State)
    (result : Option Span) : Prop :=
  let derives height goal := Derives .progress setting.grammar setting.scalars height goal
    state.position (result.map Span.stop)
  match task with
  | .visit id => derives height (.node id)
  | .parts id node => setting.grammar.node? id = some node → derives (height + 1) (.node id)
  | .times inner _ count => derives height (.times inner count)
  | .span inner _ => derives height (.span inner)

theorem Evaluates.was_running {setting height task state result after}
    (evaluation : Evaluates setting height task state result after)
    (running : after.aborted = false) : state.aborted = false := by
  cases aborted : state.aborted with
  | false => rfl
  | true =>
    rw [evaluation.stays_aborted aborted] at running
    cases running

theorem Evaluates.moved {setting height id state span after}
    (evaluation : Evaluates setting height (.visit id) state (some span) after)
    (sound : Sound setting state) : after.position = span.stop :=
  ((evaluation.rollback sound).matched span rfl).2.2.2

theorem Evaluates.derived {setting height task state result after}
    (evaluation : Evaluates setting height task state result after) (sound : Sound setting state)
    (running : after.aborted = false) : task.Derived setting height state result := by
  induction evaluation with
  | halted aborted => cases aborted.symm.trans running
  | exceeded _ _ => cases running
  | entered _ _ found _ ih => exact ih ⟨sound.inside, sound.explained⟩ running found
  | literal_fail failed =>
    intro found
    apply Derives.literal_fail found
    intro spelled
    rw [literalFailure_eq_none_iff.mpr spelled] at failed
    cases failed
  | literal agrees =>
    intro found
    exact .literal found (literalFailure_eq_none_iff.mp agrees)
  | checker_end ended =>
    intro found
    apply Derives.checker_fail found
    intro c seen
    rw [ended] at seen
    cases seen
  | checker_fail seen refused =>
    intro found
    apply Derives.checker_fail found
    intro c other
    rw [seen] at other
    cases other
    exact refused
  | checker seen passed =>
    intro found
    exact .checker found seen passed
  | sequence_left _ ih =>
    intro found
    exact .sequence_fail found (ih sound running)
  | sequence_right first second ih ih' | sequence first second ih ih' =>
    intro found
    have left := ih sound (second.was_running running)
    have right := ih' (first.sound sound) running
    simp only [Task.Derived, first.moved sound] at right
    exact .sequence found left right
  | choice_left _ ih =>
    intro found
    exact .choice_left found (ih sound running)
  | choice_right first second ih ih' =>
    intro found
    have left := ih sound (second.was_running running)
    exact .choice_right found left (ih' ⟨sound.inside, (first.sound sound).explained⟩ running)
  | negate_found _ ih =>
    intro found
    exact .negate_fail found (ih sound running)
  | negate _ running ih =>
    intro found
    exact .negate found (ih sound running)
  | optional _ ih =>
    intro found
    exact .optional found (ih sound running)
  | optional_empty _ running ih =>
    intro found
    exact .optional_empty found (ih sound running)
  | negate_aborted _ aborted | optional_aborted _ aborted | span_aborted _ aborted =>
    cases aborted.symm.trans running
  | times _ ih =>
    intro found
    exact .times found (ih sound running)
  | times_done => exact .times_done
  | times_fail _ ih => exact .times_fail (ih sound running)
  | times_next first rest ih ih' =>
    have round := ih sound (rest.was_running running)
    have others := ih' (first.sound sound) running
    simp only [Task.Derived, first.moved sound] at others
    exact .times_next round others
  | span _ ih =>
    intro found
    exact .span found (ih sound running)
  | span_next first moved rest ih ih' =>
    have round := ih sound (rest.was_running running)
    have others := ih' (first.sound sound) running
    simp only [Task.Derived, first.moved sound] at others
    exact .span_next round (fun _ => moved) others
  | span_still final still ih =>
    have round := ih sound running
    obtain ⟨_, forward, _, ends⟩ := (final.rollback sound).matched _ rfl
    have same := Nat.le_antisymm forward (Nat.le_of_not_lt still)
    simp only [Task.Derived, Option.map_some, ends, ← same] at round ⊢
    exact .span_still rfl round
  | span_end failed _ ih =>
    have round := ih sound running
    simp only [Task.Derived, Option.map_some, ((failed.rollback sound).failed rfl).1] at round ⊢
    exact .span_end round
  | capture_fail _ ih =>
    intro found
    exact .capture found (ih sound running)
  | capture _ ih =>
    intro found
    exact .capture found (ih sound running)
  | rule _ ih =>
    intro found
    exact .rule found (ih sound running)

/-- The limits leave room for this many levels below a depth. -/
def Room (limits : Limits) (height depth : Nat) : Prop :=
  limits.maxSteps = 0 ∧ (limits.maxDepth = 0 ∨ depth + height ≤ limits.maxDepth)

theorem Room.within {limits : Limits} {height depth steps : Nat} (room : Room limits (height + 1) depth) :
    limits.exceeded steps depth = none := by
  obtain ⟨free, deep⟩ := room
  rw [Limits.exceeded_eq_none_iff]
  unfold Limits.Offends
  omega

theorem Room.below {limits : Limits} {height depth : Nat} (room : Room limits (height + 1) depth) :
    Room limits height (depth + 1) :=
  ⟨room.1, room.2.imp_right (by omega)⟩

/-- A run can go on from this state, at this position and with this many levels to spare. -/
structure Ready (setting : Setting) (height position : Nat) (state : State) : Prop where
  here : state.position = position
  sound : Sound setting state
  running : state.aborted = false
  room : Room setting.limits height state.depth

def Reaches (setting : Setting) (height : Nat) (task : Task) (state : State) (result : Option Span) :
    Prop :=
  ∃ after, Evaluates setting height task state result after ∧ after.aborted = false

section Reaching
variable {setting : Setting} {height position : Nat} {state : State}

theorem Ready.entered {id : Nat} (ready : Ready setting (height + 1) position state) :
    Ready setting height position (state.enter id).descend :=
  ⟨ready.here, ⟨ready.sound.inside, ready.sound.explained⟩, ready.running, ready.room.below⟩

theorem Ready.matched {id : Nat} {span : Span} {after : State} (ready : Ready setting height position state)
    (evaluation : Evaluates setting height (.visit id) state (some span) after)
    (running : after.aborted = false) : Ready setting height span.stop after :=
  ⟨evaluation.moved ready.sound, evaluation.sound ready.sound, running,
    (evaluation.rollback ready.sound).depth ▸ ready.room⟩

theorem Ready.failed {id : Nat} {after : State} (ready : Ready setting height position state)
    (evaluation : Evaluates setting height (.visit id) state none after)
    (running : after.aborted = false) : Ready setting height position (after.rewind position) :=
  ⟨rfl, ⟨ready.here ▸ ready.sound.inside, (evaluation.sound ready.sound).explained⟩, running,
    (evaluation.rollback ready.sound).depth ▸ ready.room⟩

theorem Reaches.entered {id : Nat} {node : Node} {result : Option Span}
    (found : setting.grammar.node? id = some node) (ready : Ready setting (height + 1) position state)
    (parts : ∀ entry, Ready setting height position entry →
      Reaches setting height (.parts id node) entry result) :
    Reaches setting (height + 1) (.visit id) state result := by
  obtain ⟨after, evaluation, running⟩ := parts _ ready.entered
  exact ⟨_, .entered ready.running ready.room.within found evaluation, running⟩

end Reaching

def Goal.task (start : Nat) : Goal → Task
  | .node id => .visit id
  | .times inner count => .times inner start count
  | .span inner => .span inner start

def Goal.start (start position : Nat) : Goal → Nat
  | .node _ => position
  | .times _ _ | .span _ => start

theorem Derives.reaches {setting : Setting} {height goal position stop}
    (derived : Derives .progress setting.grammar setting.scalars height goal position stop)
    (start : Nat) {state : State} (ready : Ready setting height position state) :
    Reaches setting height (goal.task start) state (stop.map (Span.mk (goal.start start position))) := by
  induction derived generalizing state start with
  | literal found spelled =>
    apply Reaches.entered found ready
    intro entry ready
    obtain ⟨rfl, _, running, _⟩ := ready
    exact ⟨_, .literal (literalFailure_eq_none_iff.mpr spelled), running⟩
  | literal_fail found different =>
    apply Reaches.entered found ready
    intro entry ready
    obtain ⟨rfl, _, running, _⟩ := ready
    obtain ⟨kind, failed⟩ := Option.ne_none_iff_exists'.mp (different ∘ literalFailure_eq_none_iff.mp)
    exact ⟨_, .literal_fail failed, running⟩
  | checker found seen passed =>
    apply Reaches.entered found ready
    intro entry ready
    obtain ⟨rfl, _, running, _⟩ := ready
    exact ⟨_, .checker seen passed, running⟩
  | checker_fail found refused =>
    apply Reaches.entered found ready
    intro entry ready
    obtain ⟨rfl, _, running, _⟩ := ready
    cases seen : setting.scalars[entry.position]? with
    | none => exact ⟨_, .checker_end seen, running⟩
    | some c => exact ⟨_, .checker_fail seen (refused c seen), running⟩
  | @sequence _ _ _ _ _ _ stop found _ _ ih ih' =>
    apply Reaches.entered found ready
    intro entry ready
    obtain ⟨middle, first, running⟩ := ih 0 ready
    obtain ⟨after, second, running⟩ := ih' 0 (ready.matched first running)
    obtain rfl := ready.here
    cases stop with
    | none => exact ⟨_, .sequence_right first second, running⟩
    | some stop => exact ⟨_, .sequence first second, running⟩
  | sequence_fail found _ ih =>
    apply Reaches.entered found ready
    intro entry ready
    obtain ⟨after, first, running⟩ := ih 0 ready
    exact ⟨_, .sequence_left first, running⟩
  | choice_left found _ ih =>
    apply Reaches.entered found ready
    intro entry ready
    obtain ⟨after, first, running⟩ := ih 0 ready
    exact ⟨_, .choice_left first, running⟩
  | choice_right found _ _ ih ih' =>
    apply Reaches.entered found ready
    intro entry ready
    obtain ⟨middle, first, running⟩ := ih 0 ready
    obtain ⟨after, second, running⟩ := ih' 0 (ready.failed first running)
    obtain rfl := ready.here
    exact ⟨_, .choice_right first second, running⟩
  | negate found _ ih =>
    apply Reaches.entered found ready
    intro entry ready
    obtain ⟨after, inner, running⟩ := ih 0 ready
    obtain rfl := ready.here
    exact ⟨_, .negate inner running, running⟩
  | negate_fail found _ ih =>
    apply Reaches.entered found ready
    intro entry ready
    obtain ⟨after, inner, running⟩ := ih 0 ready
    exact ⟨_, .negate_found inner, running⟩
  | optional found _ ih =>
    apply Reaches.entered found ready
    intro entry ready
    obtain ⟨after, inner, running⟩ := ih 0 ready
    exact ⟨_, .optional inner, running⟩
  | optional_empty found _ ih =>
    apply Reaches.entered found ready
    intro entry ready
    obtain ⟨after, inner, running⟩ := ih 0 ready
    obtain rfl := ready.here
    exact ⟨_, .optional_empty inner running, running⟩
  | times found _ ih =>
    apply Reaches.entered found ready
    intro entry ready
    obtain ⟨after, all, running⟩ := ih entry.position ready
    obtain rfl := ready.here
    exact ⟨_, .times all, running⟩
  | times_done =>
    obtain rfl := ready.here
    exact ⟨_, .times_done, ready.running⟩
  | times_fail _ ih =>
    obtain ⟨after, first, running⟩ := ih 0 ready
    exact ⟨_, .times_fail first, running⟩
  | times_next _ _ ih ih' =>
    obtain ⟨middle, first, running⟩ := ih 0 ready
    obtain ⟨after, rest, running⟩ := ih' start (ready.matched first running)
    exact ⟨_, .times_next first rest, running⟩
  | span found _ ih =>
    apply Reaches.entered found ready
    intro entry ready
    obtain ⟨after, all, running⟩ := ih entry.position ready
    obtain rfl := ready.here
    exact ⟨_, .span all, running⟩
  | span_end _ ih =>
    obtain ⟨after, failed, running⟩ := ih 0 ready
    have back := ((failed.rollback ready.sound).failed rfl).1.trans ready.here
    have ended : Evaluates setting _ (.span _ start) state _ after := .span_end failed running
    rw [back] at ended
    exact ⟨after, ended, running⟩
  | span_still _ _ ih =>
    obtain ⟨after, final, running⟩ := ih 0 ready
    have still : ¬ state.position < _ := Nat.not_lt_of_le (Nat.le_of_eq ready.here.symm)
    have ended : Evaluates setting _ (.span _ start) state _ after := .span_still final still
    rw [final.moved ready.sound] at ended
    exact ⟨after, ended, running⟩
  | span_next _ moved _ ih ih' =>
    obtain ⟨middle, first, running⟩ := ih 0 ready
    obtain ⟨after, rest, running⟩ := ih' start (ready.matched first running)
    exact ⟨_, .span_next first (ready.here ▸ moved rfl) rest, running⟩
  | @capture _ _ _ _ _ stop found _ ih =>
    apply Reaches.entered found ready
    intro entry ready
    obtain ⟨after, inner, running⟩ := ih 0 ready
    cases stop with
    | none => exact ⟨_, .capture_fail inner, running⟩
    | some stop => exact ⟨_, .capture inner, running⟩
  | rule found _ ih =>
    apply Reaches.entered found ready
    intro entry ready
    obtain ⟨after, body, running⟩ := ih 0 ready
    exact ⟨_, .rule body, running⟩

theorem Derives.answer {setting : Setting} {height id position : Nat} {stop : Option Nat}
    (derived : Derives .progress setting.grammar setting.scalars height (.node id) position stop)
    {state : State} (ready : Ready setting height position state) :
    ∃ after, eval setting height id state = .ok (stop.map (Span.mk position), after) ∧
      after.aborted = false := by
  obtain ⟨after, evaluation, running⟩ := derived.reaches 0 ready
  exact ⟨after, (evaluates_iff ready.sound).mp evaluation, running⟩

theorem ready_initial {setting : Setting} {height position : Nat} (trace : Option Trace)
    (inside : position ≤ setting.scalars.size) (room : Room setting.limits height 0) :
    Ready setting height position (State.initial setting.grammar position trace) :=
  ⟨rfl, sound_initial setting inside trace, rfl, room⟩

/-- A run under limits that leave room for a derivation finds its result. -/
theorem Derives.run {grammar : Grammar} {limits : Limits} {source : Source} {height id : Nat}
    {stop : Option Nat}
    (derived : Derives .progress grammar source.scalars height (.node id) source.position stop)
    (room : Room limits height 0) (enough : height ≤ Setting.fuel ⟨grammar, source.scalars, limits⟩)
    (trace : Option Trace) : ∃ after,
      Evaluates ⟨grammar, source.scalars, limits⟩ height (.visit id)
        (State.initial grammar source.position trace) (stop.map (Span.mk source.position)) after ∧
      after.aborted = false ∧ grammar.runWith limits id source trace =
        .ok ⟨grammar, source, id, stop.map (Span.mk source.position), after⟩ := by
  let setting : Setting := ⟨grammar, source.scalars, limits⟩
  have ready : Ready setting height source.position (State.initial grammar source.position trace) :=
    ready_initial trace source.position_le room
  obtain ⟨after, evaluation, running⟩ := derived.reaches 0 ready
  exact ⟨after, evaluation, running, runWith_of_evaluate (evaluation.evaluate_eq ready.sound enough)⟩

section Default
variable {grammar : Grammar} {source : Source} {height id : Nat}

theorem ready_default (low : height ≤ 1000) (trace : Option Trace) :
    Ready ⟨grammar, source.scalars, {}⟩ height source.position
      (State.initial grammar source.position trace) :=
  ready_initial trace source.position_le ⟨rfl, .inr (by rwa [Nat.zero_add])⟩

theorem Evaluates.run_default {trace : Option Trace} {result : Option Span} {after : State}
    (evaluation : Evaluates ⟨grammar, source.scalars, {}⟩ height (.visit id)
      (State.initial grammar source.position trace) result after)
    (default : grammar.limits = {}) (low : height ≤ 1000) :
    grammar.consumeNode id source trace = .ok ⟨grammar, source, id, result, after⟩ := by
  have sound := (ready_default low trace : Ready ⟨grammar, source.scalars, {}⟩ _ _ _).sound
  rw [Grammar.consumeNode, default]
  exact runWith_of_evaluate (evaluation.evaluate_eq sound (Nat.le_succ_of_le low))

end Default

end Peg.Proofs
