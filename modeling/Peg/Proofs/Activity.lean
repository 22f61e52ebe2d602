import Peg.Proofs.Rollback
import Peg.Proofs.TraceLog

/-! What an evaluation does, told by its visits: which nodes it visits one after the other, what each
visit comes to, and what a node adds of its own when the visits of its parts are over. All that a
run leaves behind, its log, its failure and its captures, is read off from here by a short induction,
without a case for every kind of node. -/

namespace Peg

/-- The second node is one of those that the first one is made of. -/
def Grammar.Refers (grammar : Grammar) (id child : Nat) : Prop :=
  ∃ node, grammar.node? id = some node ∧ child ∈ node.children

/-- The failure of such a node is its own, and not that of a node that it is made of. -/
def Node.refuses : Node → Bool
  | .literal _ _ | .checker _ _ | .negate _ => true
  | _ => false

namespace Proofs

/-- What a node does after its parts: it moves at most, or refuses, or keeps the match. -/
inductive Concludes (id origin : Nat) (node : Node) (middle : State) : Option Span → State → Prop where
  | passes {result position} (blameless : result = none → node.refuses = true → middle.aborted = true)
      (plain : ∀ span, result = some span → node.slot? = none) :
      Concludes id origin node middle result (middle.rewind position)
  | refuses {kind} (own : node.refuses = true) :
      Concludes id origin node middle none ((middle.rewind origin).fail kind id).2
  | keeps {slot span} (kept : node.slot? = some slot) :
      Concludes id origin node middle (some span) (middle.keep slot span)

/-- Visits to some nodes, none of which begins before the position `low`, with the steps that they
leave in the log. -/
inductive Activity (setting : Setting) : List Nat → Nat → State → List Step → State → Prop where
  | quiet {nodes low state position} (ahead : low ≤ position) :
      Activity setting nodes low state [] (state.rewind position)
  | append {nodes low state first middle second after} (before : Activity setting nodes low state first middle)
      (later : Activity setting nodes low middle second after) :
      Activity setting nodes low state (first ++ second) after
  | struck {nodes low state id limit} (member : id ∈ nodes) (ahead : low ≤ state.position)
      (sound : Sound setting state) (running : state.aborted = false)
      (beyond : setting.limits.exceeded (state.steps + 1) state.depth = some limit) :
      Activity setting nodes low state [entry state id (.failed (.limitExceeded limit))]
        (((state.enter id).abort limit id).leave state.traceSize none)
  | visited {nodes low state height id node inner middle result after} (member : id ∈ nodes)
      (ahead : low ≤ state.position) (sound : Sound setting state) (running : state.aborted = false)
      (within : setting.limits.exceeded (state.steps + 1) state.depth = none)
      (found : setting.grammar.node? id = some node)
      (evaluation : Evaluates setting height (.visit id) state result
        (after.ascend.leave state.traceSize result))
      (parts : Activity setting node.children state.position (state.enter id).descend inner middle)
      (concludes : Concludes id state.position node middle result after) :
      Activity setting nodes low state (entry state id (.ofResult result after.failure) :: inner)
        (after.ascend.leave state.traceSize result)

section Closure
variable {setting : Setting} {nodes wider : List Nat} {low lower : Nat} {state after : State} {steps : List Step}

theorem activity_nil (ahead : low ≤ state.position) : Activity setting nodes low state [] state :=
  @Activity.quiet setting nodes low state state.position ahead

theorem Activity.widen (activity : Activity setting nodes low state steps after) (below : lower ≤ low)
    (subset : nodes ⊆ wider) : Activity setting wider lower state steps after := by
  induction activity with
  | quiet ahead => exact .quiet (Nat.le_trans below ahead)
  | append _ _ before later => exact .append (before below subset) (later below subset)
  | struck member ahead sound running beyond =>
    exact .struck (subset member) (Nat.le_trans below ahead) sound running beyond
  | visited member ahead sound running within found evaluation parts concludes =>
    exact .visited (subset member) (Nat.le_trans below ahead) sound running within found evaluation parts concludes

theorem Activity.moves (activity : Activity setting nodes low state steps after) {position : Nat}
    (ahead : low ≤ position) : Activity setting nodes low state steps (after.rewind position) := by
  have whole := activity.append (.quiet ahead)
  rwa [List.append_nil] at whole

end Closure

def Task.nodes : Task → List Nat
  | .visit id => [id]
  | .parts _ node => node.children
  | .times inner _ _ | .span inner _ => [inner]

/-- The activity that an evaluation stands for. A node that was entered also concludes. -/
def Task.Acts (setting : Setting) (task : Task) (state : State) (result : Option Span) (after : State) : Prop :=
  match task with
  | .parts id node => ∃ inner middle, Activity setting node.children state.position state inner middle ∧
      Concludes id state.position node middle result after
  | _ => ∃ steps, Activity setting task.nodes (task.origin state) state steps after

theorem Evaluates.ahead {setting height id state result after}
    (evaluation : Evaluates setting height (.visit id) state result after) (sound : Sound setting state) :
    state.position ≤ after.position := by
  have rollback := evaluation.rollback sound
  cases result with
  | none => exact Nat.le_of_eq (rollback.failed rfl).1.symm
  | some span =>
    obtain ⟨_, forward, _, ends⟩ := rollback.matched span rfl
    exact ends ▸ forward

section Parts
variable {setting : Setting} {id left right inner start : Nat} {node : Node} {state middle after : State}
  {result : Option Span} {steps first second : List Step}

theorem Concludes.silent (mild : node.refuses = false) (plain : node.slot? = none) (origin position : Nat) :
    Concludes id origin node middle result (middle.rewind position) := by
  refine .passes ?_ fun _ _ => plain
  intro _ refuses
  cases mild.symm.trans refuses

theorem Activity.next (before : Activity setting [inner] state.position state first middle)
    (ahead : start ≤ state.position) (later : Activity setting [inner] start middle second after) :
    Activity setting [inner] start state (first ++ second) after :=
  (before.widen ahead (List.Subset.refl _)).append later

theorem Activity.one (activity : Activity setting [left] state.position state steps after) (right : Nat) :
    Activity setting [left, right] state.position state steps after :=
  activity.widen (Nat.le_refl _) (List.cons_subset_cons left (List.nil_subset [right]))

theorem Activity.both (before : Activity setting [left] state.position state first middle) {resumed : Nat}
    (ahead : state.position ≤ resumed)
    (later : Activity setting [right] resumed (middle.rewind resumed) second after) :
    Activity setting [left, right] state.position state (first ++ second) after := by
  have two := later.widen ahead (List.subset_cons_self left [right])
  exact ((before.one right).moves ahead).append two

end Parts

theorem Evaluates.acts {setting height task state result after}
    (evaluation : Evaluates setting height task state result after) (sound : Sound setting state)
    (ahead : task.origin state ≤ state.position) : task.Acts setting state result after := by
  induction evaluation with
  | halted aborted => exact ⟨[], activity_nil ahead⟩
  | exceeded running beyond => exact ⟨_, .struck List.mem_cons_self ahead sound running beyond⟩
  | entered running within found parts ih =>
    obtain ⟨inner, middle, activity, concludes⟩ := ih ⟨sound.inside, sound.explained⟩ (Nat.le_refl _)
    exact ⟨_, .visited List.mem_cons_self ahead sound running within found
      (.entered running within found parts) activity concludes⟩
  | literal_fail _ | checker_end _ | checker_fail _ _ => exact ⟨[], _, activity_nil ahead, .refuses rfl⟩
  | literal _ | checker _ _ => exact ⟨[], _, activity_nil ahead, .passes nofun fun _ _ => rfl⟩
  | sequence_left _ ih =>
    obtain ⟨steps, activity⟩ := ih sound ahead
    exact ⟨steps, _, activity.one _, .silent rfl rfl _ _⟩
  | sequence_right before _ ih ih' | sequence before _ ih ih' =>
    obtain ⟨first, activity⟩ := ih sound ahead
    obtain ⟨second, activity'⟩ := ih' (before.sound sound) (Nat.le_refl _)
    exact ⟨_, _, activity.both (before.ahead sound) activity', .silent rfl rfl _ _⟩
  | choice_left _ ih =>
    obtain ⟨steps, activity⟩ := ih sound ahead
    exact ⟨steps, _, activity.one _, .silent rfl rfl _ _⟩
  | choice_right before _ ih ih' =>
    obtain ⟨first, activity⟩ := ih sound ahead
    obtain ⟨second, activity'⟩ := ih' ⟨sound.inside, (before.sound sound).explained⟩ (Nat.le_refl _)
    exact ⟨_, _, activity.both ahead activity', .silent rfl rfl _ _⟩
  | negate_found _ ih =>
    obtain ⟨steps, activity⟩ := ih sound ahead
    exact ⟨steps, _, activity, .refuses rfl⟩
  | negate_aborted _ aborted ih =>
    obtain ⟨steps, activity⟩ := ih sound ahead
    exact ⟨steps, _, activity, .passes (fun _ _ => aborted) nofun⟩
  | negate _ _ ih =>
    obtain ⟨steps, activity⟩ := ih sound ahead
    exact ⟨steps, _, activity, .passes nofun fun _ _ => rfl⟩
  | optional _ ih | optional_aborted _ _ ih | optional_empty _ _ ih | times _ ih | span _ ih | rule _ ih =>
    obtain ⟨steps, activity⟩ := ih sound ahead
    exact ⟨steps, _, activity, .silent rfl rfl _ _⟩
  | capture_fail _ ih =>
    obtain ⟨steps, activity⟩ := ih sound ahead
    exact ⟨steps, _, activity, .passes (fun _ => nofun) nofun⟩
  | capture _ ih =>
    obtain ⟨steps, activity⟩ := ih sound ahead
    exact ⟨steps, _, activity, .keeps rfl⟩
  | times_done => exact ⟨[], activity_nil ahead⟩
  | times_fail _ ih | span_aborted _ _ ih =>
    obtain ⟨steps, activity⟩ := ih sound (Nat.le_refl _)
    exact ⟨steps, (activity.widen ahead (List.Subset.refl _)).moves (Nat.le_refl _)⟩
  | times_next before _ ih ih' | span_next before _ _ ih ih' =>
    obtain ⟨first, activity⟩ := ih sound (Nat.le_refl _)
    obtain ⟨second, activity'⟩ := ih' (before.sound sound) (Nat.le_trans ahead (before.ahead sound))
    exact ⟨_, activity.next ahead activity'⟩
  | span_still _ _ ih | span_end _ _ ih =>
    obtain ⟨steps, activity⟩ := ih sound (Nat.le_refl _)
    exact ⟨steps, activity.widen ahead (List.Subset.refl _)⟩

/-- The evaluation that a step records. -/
structure Attempt (setting : Setting) (step : Step) (height : Nat) (state : State) (result : Option Span)
    (after : State) : Prop where
  evaluation : Evaluates setting height (.visit step.node) state result after
  sound : Sound setting state
  running : state.aborted = false
  position : state.position = step.position
  verdict : step.verdict = .ofResult result after.failure

section Effects
variable {setting : Setting} {nodes : List Nat} {low id origin : Nat} {node : Node} {state middle after : State}
  {result : Option Span} {steps : List Step}

theorem Concludes.alike (concludes : Concludes id origin node middle result after) : Alike middle after := by
  cases concludes <;> exact ⟨rfl, rfl, rfl, rfl⟩

theorem Activity.logged (activity : Activity setting nodes low state steps after) : Logged state steps after := by
  induction activity with
  | quiet _ => exact logged_nil rfl rfl rfl
  | append _ _ before later => exact before.append later
  | @struck _ _ state id limit _ _ _ _ _ =>
    have inner : Logged (state.enter id).descend [] ((state.enter id).descend.abort limit id) :=
      logged_nil rfl rfl rfl
    exact inner.leave none
  | visited _ _ _ _ _ _ _ _ concludes ih => exact (ih.alike concludes.alike).leave _

theorem Activity.ahead (activity : Activity setting nodes low state steps after) :
    ∀ step ∈ steps, low ≤ step.position := by
  induction activity with
  | quiet _ => exact nofun
  | append _ _ before later => exact List.forall_mem_append.mpr ⟨before, later⟩
  | struck _ ahead _ _ _ => exact List.forall_mem_singleton.mpr ahead
  | visited _ ahead _ _ _ _ _ _ _ ih =>
    exact List.forall_mem_cons.mpr ⟨ahead, fun step member => Nat.le_trans ahead (ih step member)⟩

theorem Activity.was_running (activity : Activity setting nodes low state steps after)
    (running : after.aborted = false) : state.aborted = false := by
  induction activity with
  | quiet _ => exact running
  | append _ _ before later => exact before (later running)
  | struck _ _ _ before _ => exact before
  | visited _ _ _ before _ _ _ _ _ _ => exact before

theorem Attempt.matched {step : Step} {height : Nat} {span : Span}
    (attempt : Attempt setting step height state (some span) after) :
    span.start = step.position ∧ step.position ≤ span.stop ∧ span.stop ≤ setting.scalars.size := by
  obtain ⟨start, forward, inside, _⟩ := (attempt.evaluation.rollback attempt.sound).matched span rfl
  exact attempt.position ▸ ⟨start, forward, inside⟩

theorem Activity.attempts (activity : Activity setting nodes low state steps after) :
    ∀ step ∈ steps, ∃ height entry result ending, Attempt setting step height entry result ending ∧
      (after.aborted = false → ending.aborted = false) := by
  induction activity with
  | quiet _ => exact nofun
  | append _ later ih ih' =>
    refine List.forall_mem_append.mpr ⟨?_, ih'⟩
    intro step member
    obtain ⟨_, _, _, _, attempt, alive⟩ := ih step member
    exact ⟨_, _, _, _, attempt, fun running => alive (later.was_running running)⟩
  | struck _ _ sound running beyond =>
    exact List.forall_mem_singleton.mpr
      ⟨1, _, _, _, ⟨.exceeded running beyond, sound, running, rfl, rfl⟩, id⟩
  | visited _ _ sound running _ _ evaluation _ concludes ih =>
    refine List.forall_mem_cons.mpr ⟨⟨_, _, _, _, ⟨evaluation, sound, running, rfl, rfl⟩, id⟩, ?_⟩
    intro step member
    obtain ⟨_, _, _, _, attempt, alive⟩ := ih step member
    exact ⟨_, _, _, _, attempt, fun running => alive (concludes.alike.aborted ▸ running)⟩

end Effects

theorem Evaluates.visits {setting height id state result after}
    (evaluation : Evaluates setting height (.visit id) state result after) (sound : Sound setting state)
    (running : state.aborted = false) : ∃ verdict inner,
      Activity setting [id] state.position state (entry state id verdict :: inner) after ∧
        ∀ step ∈ inner, state.depth < step.depth := by
  have ahead := Nat.le_refl state.position
  cases evaluation with
  | halted aborted => cases aborted.symm.trans running
  | exceeded _ beyond => exact ⟨_, [], .struck List.mem_cons_self ahead sound running beyond, nofun⟩
  | entered _ within found parts =>
    obtain ⟨inner, middle, activity, concludes⟩ := parts.acts ⟨sound.inside, sound.explained⟩ (Nat.le_refl _)
    exact ⟨_, inner, .visited List.mem_cons_self ahead sound running within found
      (.entered running within found parts) activity concludes, activity.logged.deep⟩

end Proofs
end Peg
