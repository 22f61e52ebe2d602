import Mathlib.Data.List.Nodup
import Mathlib.Logic.Relation
import Peg.Proofs.Emission
import Peg.Proofs.Sealing

/-! What becomes of a draft. However many operations work on it, and whether they fail or not, a draft changes
in three ways only: a place is added, a capture gets a new name, or a declared rule gets its body. What these
keep holds of every draft, and so of every grammar that is sealed from one. -/

namespace Peg

/-- Something is repeated at least once, and a match is kept in one of so many slots. -/
def Node.Lawful (slots : Nat) : Node → Prop
  | .times _ count => 0 < count
  | .capture _ slot => slot < slots
  | _ => True

namespace Draft

/-- What can be done to a draft. The numbers of nodes are not required to exist. -/
inductive Operation where
  | literal (text : String) (casing : CaseRule)
  | checker (name : String) (test : Char → Bool)
  | preset (charClass : CharClass)
  | charRange (first last : Char)
  | charSet (members : List Char)
  | sequence (left right : Nat)
  | sequenceOf (nodes : List Nat)
  | choice (left right : Nat)
  | choiceOf (nodes : List Nat)
  | negate (inner : Nat)
  | optional (inner : Nat)
  | span (inner : Nat)
  | oneOrMore (inner : Nat)
  | times (inner count : Nat)
  | capture (inner : Nat) (name : String)
  | declare (name : String)
  | rule (name : String) (target : Nat)
  | define (node body : Nat)
  | compile (expression : Expression)

def Operation.perform : Operation → Drafting Unit
  | .literal text casing => discard (Draft.literal text casing)
  | .checker name test => discard (Draft.checker name test)
  | .preset charClass => discard (Draft.preset charClass)
  | .charRange first last => discard (Draft.charRange first last)
  | .charSet members => discard (Draft.charSet members)
  | .sequence left right => discard (Draft.sequence left right)
  | .sequenceOf nodes => discard (Draft.sequenceOf nodes)
  | .choice left right => discard (Draft.choice left right)
  | .choiceOf nodes => discard (Draft.choiceOf nodes)
  | .negate inner => discard (Draft.negate inner)
  | .optional inner => discard (Draft.optional inner)
  | .span inner => discard (Draft.span inner)
  | .oneOrMore inner => discard (Draft.oneOrMore inner)
  | .times inner count => discard (Draft.times inner count).run
  | .capture inner name => discard (Draft.capture inner name)
  | .declare name => discard (Draft.declare name)
  | .rule name target => discard (Draft.rule name target)
  | .define node body => discard (Draft.define node body).run
  | .compile expression => discard expression.draft.run

/-- The draft after some operations, one after the other. What one that fails has appended is kept. -/
def perform (draft : Draft) (operations : List Operation) : Draft :=
  ((operations.forM Operation.perform).run draft).2

inductive Change (draft : Draft) : Draft → Prop where
  | append {slot} (lawful : ∀ node, slot = .ready node → node.Lawful draft.captureNames.size) :
      Change draft { draft with slots := draft.slots.push slot }
  | name {name} (fresh : name ∉ draft.captureNames) :
      Change draft { draft with captureNames := draft.captureNames.push name }
  | bind {place name body} (waiting : draft.slots[place]? = some (.declared name none)) :
      Change draft { draft with slots := draft.slots.setIfInBounds place (.declared name (some body)) }

abbrev Evolves : Draft → Draft → Prop := Relation.ReflTransGen Change

/-- No two slots have the same name, and each capture has a slot. -/
structure Coherent (draft : Draft) : Prop where
  distinct : draft.captureNames.toList.Nodup
  lawful : ∀ node, .ready node ∈ draft.slots → node.Lawful draft.captureNames.size

end Draft

/-- The grammar was sealed from a draft, and may have been given another root or other limits since. -/
inductive Grammar.Drafted : Grammar → Prop where
  | sealed {operations root grammar} (built : (Draft.perform {} operations).seal root = .ok grammar) :
      Drafted grammar
  | withRoot {grammar root other} (drafted : Drafted grammar) (moved : grammar.withRoot root = .ok other) :
      Drafted other
  | withLimits {grammar limits} (drafted : Drafted grammar) : Drafted (grammar.withLimits limits)

structure Grammar.Coherent (grammar : Grammar) : Prop where
  distinct : grammar.captureNames.toList.Nodup
  lawful : ∀ id node, grammar.node? id = some node → node.Lawful grammar.captureNames.size

namespace Proofs
open Draft

/-- The action changes a draft in no other way, also when it fails. -/
def Careful {α : Type} (action : Drafting α) : Prop := ∀ draft, Evolves draft (action.run draft).2

section Rules
variable {α β : Type}

theorem careful_pure (value : α) : Careful (pure value) := fun _ => .refl

theorem Careful.bind {action : Drafting α} {next : α → Drafting β} (first : Careful action)
    (rest : ∀ value, Careful (next value)) : Careful (action >>= next) := by
  intro draft
  exact (first draft).trans (rest (action.run draft).1 (action.run draft).2)

theorem Careful.discard {action : Drafting α} (careful : Careful action) : Careful (discard action) :=
  careful

theorem careful_throw (error : BuildError) : Careful (throw error : CheckedDrafting α).run :=
  careful_pure _

theorem Careful.lift {action : Drafting α} (careful : Careful action) :
    Careful (liftM action : CheckedDrafting α).run :=
  careful

theorem Careful.checked {action : CheckedDrafting α} {next : α → CheckedDrafting β} (first : Careful action.run)
    (rest : ∀ value, Careful (next value).run) : Careful (action >>= next).run := by
  rw [ExceptT.run_bind]
  refine first.bind fun result => ?_
  cases result with
  | error error => exact careful_pure _
  | ok value => exact rest value

theorem Careful.foldlM {next : β → α → Drafting β} (careful : ∀ value item, Careful (next value item))
    (items : List α) (value : β) : Careful (items.foldlM next value) := by
  induction items generalizing value with
  | nil => exact careful_pure value
  | cons item rest ih => exact (careful value item).bind ih

theorem Careful.forM {action : α → Drafting Unit} (careful : ∀ item, Careful (action item)) (items : List α) :
    Careful (items.forM action) := by
  induction items with
  | nil => exact careful_pure ()
  | cons item rest ih => exact (careful item).bind fun _ => ih

end Rules

section Operations

theorem careful_append {slot : Slot} (lawful : ∀ names node, slot = .ready node → node.Lawful names) :
    Careful (append slot) :=
  fun draft => .single (.append (lawful draft.captureNames.size))

theorem careful_add {node : Node} (lawful : ∀ names, node.Lawful names) : Careful (add node) := by
  apply careful_append
  rintro names _ ⟨⟩
  exact lawful names

theorem careful_declare (name : String) : Careful (declare name) := careful_append nofun

theorem careful_sequence (left right : Nat) : Careful (sequence left right) := careful_add fun _ => trivial

theorem careful_choice (left right : Nat) : Careful (choice left right) := careful_add fun _ => trivial

theorem careful_sequenceOf (nodes : List Nat) : Careful (sequenceOf nodes) := by
  cases nodes with
  | nil => exact careful_pure none
  | cons first rest => exact (Careful.foldlM careful_sequence rest first).bind fun _ => careful_pure _

theorem careful_choiceOf (nodes : List Nat) : Careful (choiceOf nodes) := by
  induction nodes with
  | nil => exact careful_pure none
  | cons first rest ih =>
    refine ih.bind fun others => ?_
    cases others with
    | none => exact careful_pure (some first)
    | some others => exact (careful_choice first others).bind fun _ => careful_pure _

theorem careful_oneOrMore (inner : Nat) : Careful (oneOrMore inner) :=
  .bind (careful_add fun _ => trivial) fun _ => careful_sequence _ _

theorem careful_times (inner count : Nat) : Careful (times inner count).run := by
  unfold times
  split
  · exact careful_throw _
  next repeats => exact .lift (careful_add fun _ => Nat.pos_of_ne_zero repeats)

/-- A new name is given before the capture that it belongs to is appended. -/
theorem careful_capture (inner : Nat) (name : String) : Careful (capture inner name) := by
  intro draft
  let named := (captureSlot name).run draft
  have appended (inside : named.1 < named.2.captureNames.size) :
      Evolves named.2 ((capture inner name).run draft).2 := by
    refine .single (.append ?_)
    rintro _ ⟨⟩
    exact inside
  cases known : draft.captureNames.findIdx? (· == name) with
  | some slot =>
    have same : named = (slot, draft) := by
      simp only [named, captureSlot, modifyGet, MonadStateOf.modifyGet, StateT.modifyGet, StateT.run, known]
      rfl
    obtain ⟨inside, _⟩ := Array.findIdx?_eq_some_iff_findIdx_eq.mp known
    rw [same] at appended
    exact appended inside
  | none =>
    have new : named = (draft.captureNames.size, { draft with captureNames := draft.captureNames.push name }) := by
      simp only [named, captureSlot, modifyGet, MonadStateOf.modifyGet, StateT.modifyGet, StateT.run, known]
      rfl
    have fresh : name ∉ draft.captureNames := by
      intro member
      have other := Array.findIdx?_eq_none_iff.mp known name member
      rw [beq_self_eq_true] at other
      cases other
    rw [new] at appended
    exact .head (.name fresh) (appended (by rw [Array.size_push]; exact Nat.lt_succ_self _))

theorem careful_define (node body : Nat) : Careful (define node body).run := by
  intro draft
  have read : (get : CheckedDrafting Draft).run draft = (.ok draft, draft) := rfl
  have decided : (define node body).run draft = _ := run_bind read
  rw [StateT.run, decided]
  split
  next name waiting => exact .single (.bind waiting)
  all_goals exact .refl

theorem careful_emit (expression : Expression) (room : Nat) : Careful (expression.emit room).run := by
  induction expression generalizing room with
  | literal text =>
    cases room with
    | zero => exact careful_throw _
    | succ room => exact .lift (careful_add fun _ => trivial)
  | modified inner modifier ih =>
    cases room with
    | zero => exact careful_throw _
    | succ room =>
      refine (ih room).checked fun node => ?_
      cases modifier with
      | oneOrMore => exact .lift (careful_oneOrMore node)
      | optional | negate => exact .lift (careful_add fun _ => trivial)
  | times inner count ih =>
    cases room with
    | zero => exact careful_throw _
    | succ room => exact (ih room).checked fun node => careful_times node count
  | sequence left right ih ih' =>
    cases room with
    | zero => exact careful_throw _
    | succ room => exact (ih room).checked fun _ => (ih' room).checked fun _ => .lift (careful_sequence _ _)
  | choice left right ih ih' =>
    cases room with
    | zero => exact careful_throw _
    | succ room => exact (ih room).checked fun _ => (ih' room).checked fun _ => .lift (careful_choice _ _)

theorem careful_perform (operation : Operation) : Careful operation.perform := by
  cases operation with
  | literal | checker | preset | charRange | charSet | negate | optional | span | rule =>
    exact Careful.discard (careful_add fun _ => trivial)
  | sequence left right => exact (careful_sequence left right).discard
  | sequenceOf nodes => exact (careful_sequenceOf nodes).discard
  | choice left right => exact (careful_choice left right).discard
  | choiceOf nodes => exact (careful_choiceOf nodes).discard
  | oneOrMore inner => exact (careful_oneOrMore inner).discard
  | times inner count => exact (careful_times inner count).discard
  | capture inner name => exact (careful_capture inner name).discard
  | declare name => exact (careful_declare name).discard
  | define node body => exact (careful_define node body).discard
  | compile expression => exact (careful_emit expression _).discard

theorem evolves_perform (draft : Draft) (operations : List Operation) :
    Evolves draft (draft.perform operations) :=
  Careful.forM careful_perform operations draft

end Operations

end Proofs

section Coherence
open Draft
variable {draft after : Draft} {grammar : Grammar}

theorem Node.Lawful.mono {node : Node} {slots more : Nat} (lawful : node.Lawful slots) (most : slots ≤ more) :
    node.Lawful more := by
  cases node with
  | capture inner slot => exact Nat.lt_of_lt_of_le lawful most
  | times | literal | checker | sequence | choice | negate | optional | span | rule => exact lawful

theorem Draft.Coherent.change (coherent : draft.Coherent) (change : draft.Change after) : after.Coherent := by
  cases change with
  | append lawful =>
    refine ⟨coherent.distinct, ?_⟩
    intro node member
    rcases Array.mem_push.mp member with earlier | last
    · exact coherent.lawful node earlier
    · exact lawful node last.symm
  | name fresh =>
    refine ⟨?_, ?_⟩
    · rw [Array.toList_push, ← List.concat_eq_append]
      exact List.Nodup.concat (mt Array.mem_def.mpr fresh) coherent.distinct
    · intro node member
      rw [Array.size_push]
      exact (coherent.lawful node member).mono (Nat.le_succ _)
  | bind waiting =>
    refine ⟨coherent.distinct, ?_⟩
    intro node member
    rcases Array.mem_or_eq_of_mem_setIfInBounds member with earlier | last
    · exact coherent.lawful node earlier
    · cases last

theorem Draft.Coherent.evolves (coherent : draft.Coherent) (evolves : draft.Evolves after) : after.Coherent := by
  induction evolves with
  | refl => exact coherent
  | tail _ change ih => exact ih.change change

theorem coherent_empty : Draft.Coherent {} := by
  refine ⟨List.nodup_nil, ?_⟩
  intro node member
  cases Array.not_mem_empty _ member

theorem coherent_perform (operations : List Operation) : (Draft.perform {} operations).Coherent :=
  coherent_empty.evolves (Proofs.evolves_perform {} operations)

theorem lawful_of_slot {slot : Slot} {node : Node} {slots : Nat} (resolved : slot.node = .ok node)
    (lawful : ∀ node, slot = .ready node → node.Lawful slots) : node.Lawful slots := by
  cases slot with
  | ready found =>
    cases resolved
    exact lawful node rfl
  | declared name target =>
    cases target with
    | none => cases resolved
    | some target =>
      cases resolved
      trivial

theorem Draft.Coherent.seal (coherent : draft.Coherent) {root : Nat} (built : draft.seal root = .ok grammar) :
    grammar.Coherent := by
  obtain ⟨_, sealedAs⟩ := Proofs.sealedAs_of_seal built
  refine ⟨sealedAs.names ▸ coherent.distinct, ?_⟩
  intro id node found
  obtain ⟨slot, placed, resolved⟩ := Proofs.slot_of_sealedAs sealedAs found
  rw [sealedAs.names]
  refine lawful_of_slot resolved ?_
  rintro ready rfl
  exact coherent.lawful ready (Array.mem_of_getElem? placed)

theorem Grammar.Drafted.coherent (drafted : grammar.Drafted) : grammar.Coherent := by
  induction drafted with
  | sealed built => exact (coherent_perform _).seal built
  | withRoot _ moved ih =>
    unfold Grammar.withRoot at moved
    split at moved
    · cases moved
      exact ⟨ih.distinct, ih.lawful⟩
    · cases moved
  | withLimits _ ih => exact ⟨ih.distinct, ih.lawful⟩

end Coherence

end Peg
