import Peg.Expression.Compile

/-! The nodes that an expression is compiled into, written down without a draft: parts before the
whole, left before right, and one node for the pattern that a `+` uses twice. -/

namespace Peg

/-- The place of the node of an expression among the nodes it is compiled into. It is the last. -/
def Expression.rootPlace : Expression → Nat
  | .literal _ => 0
  | .modified inner .oneOrMore => inner.rootPlace + 2
  | .modified inner _ | .times inner _ => inner.rootPlace + 1
  | .sequence left right | .choice left right => left.rootPlace + 1 + right.rootPlace + 1

/-- The nodes of an expression, the first of them at `base`. -/
def Expression.nodes : Expression → Nat → List Node
  | .literal text, _ => [.literal text .sensitive]
  | .modified inner .oneOrMore, base =>
    let part := base + inner.rootPlace
    inner.nodes base ++ [.span part, .sequence part (part + 1)]
  | .modified inner .optional, base => inner.nodes base ++ [.optional (base + inner.rootPlace)]
  | .modified inner .negate, base => inner.nodes base ++ [.negate (base + inner.rootPlace)]
  | .times inner count, base => inner.nodes base ++ [.times (base + inner.rootPlace) count]
  | .sequence left right, base =>
    let middle := base + left.rootPlace + 1
    left.nodes base ++ right.nodes middle ++ [.sequence (base + left.rootPlace) (middle + right.rootPlace)]
  | .choice left right, base =>
    let middle := base + left.rootPlace + 1
    left.nodes base ++ right.nodes middle ++ [.choice (base + left.rootPlace) (middle + right.rootPlace)]

def Expression.Repeats : Expression → Prop
  | .literal _ => True
  | .modified inner _ => inner.Repeats
  | .times inner count => inner.Repeats ∧ count ≠ 0
  | .sequence left right | .choice left right => left.Repeats ∧ right.Repeats

def Draft.extend (draft : Draft) (nodes : List Node) : Draft :=
  { draft with slots := draft.slots ++ (nodes.map Slot.ready).toArray }

namespace Proofs

theorem extend_append (draft : Draft) (first rest : List Node) :
    (draft.extend first).extend rest = draft.extend (first ++ rest) := by
  simp [Draft.extend, Array.append_assoc]

theorem size_extend (draft : Draft) (nodes : List Node) :
    (draft.extend nodes).size = draft.size + nodes.length := by
  simp [Draft.extend, Draft.size]

theorem length_nodes (expression : Expression) (base : Nat) :
    (expression.nodes base).length = expression.rootPlace + 1 := by
  induction expression generalizing base with
  | literal => rfl
  | modified inner modifier ih => cases modifier <;> simp [Expression.nodes, Expression.rootPlace, ih]
  | times inner count ih => simp [Expression.nodes, Expression.rootPlace, ih]
  | sequence left right ih ih' | choice left right ih ih' =>
    simp [Expression.nodes, Expression.rootPlace, ih, ih']
    omega

section Drafting
variable {α β : Type}

theorem run_bind {draft middle : Draft} {action : CheckedDrafting α}
    {next : α → CheckedDrafting β} {value : α} (ran : action.run draft = (.ok value, middle)) :
    (action >>= next).run draft = (next value).run middle := by
  simp only [ExceptT.run, bind, ExceptT.bind, ExceptT.mk, StateT.bind] at ran ⊢
  simp only [ran]
  rfl

variable (draft : Draft)

theorem run_add (node : Node) : (Draft.add node : CheckedDrafting Nat).run draft =
    (.ok draft.size, draft.extend [node]) := by
  simp [Draft.extend]
  rfl

theorem run_oneOrMore (node : Nat) : (Draft.oneOrMore node : CheckedDrafting Nat).run draft =
    (.ok (draft.size + 1), draft.extend [.span node, .sequence node draft.size]) := by
  have whole := run_add (draft.extend [.span node]) (.sequence node draft.size)
  rw [size_extend, extend_append] at whole
  exact whole

theorem run_times {count : Nat} (repeats : count ≠ 0) (node : Nat) : (Draft.times node count).run draft =
    (.ok draft.size, draft.extend [.times node count]) := by
  rw [Draft.times, if_neg repeats]
  exact run_add _ _

theorem height_pos (expression : Expression) : 0 < expression.height := by
  cases expression <;> simp [Expression.height]

theorem run_whole {inner : Expression} {part : CheckedDrafting Nat} {next : Nat → CheckedDrafting Nat}
    {whole : Nat → Node}
    (ran : part.run draft = (.ok (draft.size + inner.rootPlace), draft.extend (inner.nodes draft.size)))
    (added : ∀ node middle, (next node).run middle = (.ok middle.size, middle.extend [whole node])) :
    (part >>= next).run draft = (.ok (draft.size + (inner.rootPlace + 1)),
      draft.extend (inner.nodes draft.size ++ [whole (draft.size + inner.rootPlace)])) := by
  rw [run_bind ran, added, size_extend, extend_append, length_nodes]

theorem run_pair {left right : Expression} {first second : CheckedDrafting Nat}
    {next : Nat → Nat → CheckedDrafting Nat} {whole : Nat → Nat → Node}
    (ran : first.run draft = (.ok (draft.size + left.rootPlace), draft.extend (left.nodes draft.size)))
    (ran' : ∀ middle, second.run middle =
      (.ok (middle.size + right.rootPlace), middle.extend (right.nodes middle.size)))
    (added : ∀ one two middle, (next one two).run middle = (.ok middle.size, middle.extend [whole one two])) :
    (first >>= fun one => second >>= next one).run draft =
      (.ok (draft.size + (left.rootPlace + 1 + right.rootPlace + 1)),
        draft.extend (left.nodes draft.size ++ right.nodes (draft.size + left.rootPlace + 1) ++
          [whole (draft.size + left.rootPlace) (draft.size + left.rootPlace + 1 + right.rootPlace)])) := by
  have between := ran' (draft.extend (left.nodes draft.size))
  rw [size_extend, extend_append, length_nodes, ← Nat.add_assoc draft.size] at between
  rw [run_bind ran, run_bind between, added, size_extend, extend_append, List.length_append, length_nodes,
    length_nodes]
  simp only [Nat.add_assoc]

theorem run_emit {expression : Expression} {room : Nat} (low : expression.height ≤ room)
    (repeats : expression.Repeats) : (expression.emit room).run draft =
      (.ok (draft.size + expression.rootPlace), draft.extend (expression.nodes draft.size)) := by
  induction expression generalizing room draft with
  | literal text =>
    obtain ⟨room, rfl⟩ := Nat.exists_eq_add_of_le' low
    exact run_add _ _
  | modified inner modifier ih =>
    obtain ⟨room, rfl⟩ := Nat.exists_eq_add_of_le' (Nat.le_trans (height_pos _) low)
    have part := ih draft (Nat.le_of_succ_le_succ low) repeats
    cases modifier with
    | oneOrMore =>
      have whole := run_oneOrMore (draft.extend (inner.nodes draft.size)) (draft.size + inner.rootPlace)
      rw [size_extend, extend_append, length_nodes] at whole
      exact (run_bind part).trans whole
    | optional => exact run_whole draft part fun _ _ => run_add _ _
    | negate => exact run_whole draft part fun _ _ => run_add _ _
  | times inner count ih =>
    obtain ⟨room, rfl⟩ := Nat.exists_eq_add_of_le' (Nat.le_trans (height_pos _) low)
    have part := ih draft (Nat.le_of_succ_le_succ low) repeats.1
    exact run_whole draft part fun node middle => run_times middle repeats.2 node
  | sequence left right ih ih' | choice left right ih ih' =>
    obtain ⟨room, rfl⟩ := Nat.exists_eq_add_of_le' (Nat.le_trans (height_pos _) low)
    obtain ⟨one, two⟩ := Nat.max_le.mp (Nat.le_of_succ_le_succ low)
    refine run_pair draft (ih draft one repeats.1) ?_ ?_
    · intro middle
      exact ih' middle two repeats.2
    · intros
      exact run_add _ _

end Drafting

/-- Consecutive nodes have a property at their places, the first of them at `base`. -/
def Along (property : Nat → Node → Prop) (base : Nat) (nodes : List Node) : Prop :=
  ∀ (index : Nat) (node : Node), nodes[index]? = some node → property (base + index) node

section Along
variable {property : Nat → Node → Prop} {base : Nat} {node : Node} {first rest : List Node}

theorem along_nil : Along property base [] := by
  intro index node impossible
  cases impossible

theorem along_cons : Along property base (node :: rest) ↔ property base node ∧ Along property (base + 1) rest := by
  constructor
  · intro along
    refine ⟨along 0 node rfl, ?_⟩
    intro index other found
    rw [Nat.add_assoc, Nat.add_comm 1 index]
    exact along (index + 1) other found
  · rintro ⟨head, tail⟩ index other found
    cases index with
    | zero =>
      cases found
      exact head
    | succ index =>
      rw [Nat.add_comm index 1, ← Nat.add_assoc]
      exact tail index other found

theorem along_append : Along property base (first ++ rest) ↔
    Along property base first ∧ Along property (base + first.length) rest := by
  induction first generalizing base with
  | nil =>
    constructor
    · intro along
      exact ⟨along_nil, along⟩
    · intro along
      exact along.2
  | cons node first ih =>
    rw [List.cons_append, along_cons, along_cons, ih, and_assoc, List.length_cons, Nat.add_assoc,
      Nat.add_comm 1 first.length]

end Along

def Placed (size : Nat) : Nat → List Node → Prop := Along fun place node => node.Fits size place

section Sealing
variable {size base : Nat}

theorem placed_singleton {node : Node} (fits : node.Fits size base) : Placed size base [node] :=
  along_cons.mpr ⟨fits, along_nil⟩

theorem Placed.append {first rest : List Node} (placed : Placed size base first)
    (others : Placed size (base + first.length) rest) : Placed size base (first ++ rest) :=
  along_append.mpr ⟨placed, others⟩

theorem placed_nodes (expression : Expression) (inside : base + expression.rootPlace < size) :
    Placed size base (expression.nodes base) := by
  induction expression generalizing base with
  | literal text =>
    apply placed_singleton
    intro child impossible
    cases impossible
  | modified inner modifier ih =>
    cases modifier with
    | oneOrMore =>
      have inside : base + inner.rootPlace + 2 < size := inside
      have span : Node.Fits size (base + (inner.nodes base).length) (.span (base + inner.rootPlace)) := by
        simp [Node.Fits, Node.children, length_nodes]
        omega
      have whole : Node.Fits size (base + (inner.nodes base).length + 1)
          (.sequence (base + inner.rootPlace) (base + inner.rootPlace + 1)) := by
        simp [Node.Fits, Node.children, length_nodes]
        omega
      exact (ih (by omega)).append (along_cons.mpr ⟨span, placed_singleton whole⟩)
    | optional | negate =>
      have inside : base + inner.rootPlace + 1 < size := inside
      apply (ih (by omega)).append
      apply placed_singleton
      simp [Node.Fits, Node.children, length_nodes]
      omega
  | times inner count ih =>
    have inside : base + inner.rootPlace + 1 < size := inside
    apply (ih (by omega)).append
    apply placed_singleton
    simp [Node.Fits, Node.children, length_nodes]
    omega
  | sequence left right ih ih' | choice left right ih ih' =>
    have inside : base + (left.rootPlace + 1 + right.rootPlace + 1) < size := inside
    refine .append ((ih (by omega)).append ?_) (placed_singleton ?_)
    · rw [length_nodes]
      exact ih' (by omega)
    · simp [Node.Fits, Node.children, length_nodes]
      omega

theorem check_of_fits {node : Node} (fits : node.Fits size base) :
    (Slot.ready node).check size base = .ok node := by
  have clean : node.children.findSome? (Slot.fault size base node) = none := by
    apply List.findSome?_eq_none_iff.mpr
    intro child member
    obtain ⟨inside, before⟩ := fits child member
    have ordered : ¬ (node.isRule = false ∧ base ≤ child) := by
      rintro ⟨plain, behind⟩
      exact Nat.not_lt_of_le behind (before plain)
    rw [Slot.fault, if_neg (Nat.not_le_of_lt inside), if_neg ordered]
  simp only [Slot.check, Slot.node, bind, Except.bind, clean]

theorem checkAll_of_placed {nodes : List Node} (placed : Placed size base nodes) :
    Slot.checkAll size base (nodes.map .ready) = .ok nodes := by
  induction nodes generalizing base with
  | nil => rfl
  | cons node rest ih =>
    obtain ⟨fits, tail⟩ := along_cons.mp placed
    have first := check_of_fits fits
    have others := ih tail
    simp only [List.map_cons, Slot.checkAll, first, others, bind, Except.bind, pure, Except.pure]

theorem seal_of_placed {nodes : List Node} {root : Nat} (inside : root < nodes.length)
    (placed : Placed nodes.length 0 nodes) : ∃ grammar, (Draft.extend {} nodes).seal root = .ok grammar ∧
      grammar.nodes = nodes.toArray ∧ grammar.root = root ∧ grammar.limits = {} := by
  have slots : (Draft.extend {} nodes).slots = (nodes.map Slot.ready).toArray := by simp [Draft.extend]
  have size : (Draft.extend {} nodes).slots.size = nodes.length := by simp [slots]
  have checked : Slot.checkAll (Draft.extend {} nodes).slots.size 0 (Draft.extend {} nodes).slots.toList =
      .ok nodes := by
    rw [size, slots]
    exact checkAll_of_placed placed
  unfold Draft.seal
  rw [dif_pos (size ▸ inside)]
  split
  · next failed =>
    rw [checked] at failed
    cases failed
  · next found =>
    rw [checked] at found
    cases found
    exact ⟨_, rfl, rfl, rfl, rfl⟩

end Sealing

theorem compile_eq {expression : Expression} (low : expression.height ≤ Expression.maxHeight)
    (repeats : expression.Repeats) : ∃ grammar, expression.compile = .ok grammar ∧
      grammar.nodes = (expression.nodes 0).toArray ∧ grammar.root = expression.rootPlace ∧
      grammar.limits = {} := by
  have ran : expression.draft.run {} = _ := run_emit {} low repeats
  have size : Draft.size {} = 0 := rfl
  have last : expression.rootPlace < (expression.nodes 0).length := by
    rw [length_nodes]
    omega
  have placed : Placed (expression.nodes 0).length 0 (expression.nodes 0) :=
    placed_nodes expression (by rwa [Nat.zero_add])
  rw [size, Nat.zero_add] at ran
  rw [Expression.compile, ran]
  exact seal_of_placed last placed

section Emitted
variable {α β : Type} {draft last : Draft}

theorem of_run_bind {action : CheckedDrafting α} {next : α → CheckedDrafting β} {value : β}
    (ran : (action >>= next).run draft = (.ok value, last)) :
    ∃ inner middle, action.run draft = (.ok inner, middle) ∧ (next inner).run middle = (.ok value, last) := by
  rcases first : action.run draft with ⟨_ | inner, middle⟩
  · simp only [ExceptT.run, bind, ExceptT.bind, ExceptT.mk, StateT.bind] at first ran
    rw [first] at ran
    cases ran
  · exact ⟨inner, middle, rfl, (run_bind first).symm.trans ran⟩

theorem of_run_times {inner count place : Nat} (ran : (Draft.times inner count).run draft = (.ok place, last)) :
    count ≠ 0 := by
  rintro rfl
  cases ran

theorem valid_of_emit {expression : Expression} {room place : Nat}
    (ran : (expression.emit room).run draft = (.ok place, last)) :
    expression.height ≤ room ∧ expression.Repeats := by
  induction expression generalizing room draft place last with
  | literal text =>
    cases room with
    | zero => cases ran
    | succ room => exact ⟨Nat.le_add_left _ _, trivial⟩
  | modified inner modifier ih =>
    cases room with
    | zero => cases ran
    | succ room =>
      obtain ⟨_, _, part, _⟩ := of_run_bind ran
      obtain ⟨low, repeats⟩ := ih part
      exact ⟨Nat.succ_le_succ low, repeats⟩
  | times inner count ih =>
    cases room with
    | zero => cases ran
    | succ room =>
      obtain ⟨_, _, part, whole⟩ := of_run_bind ran
      obtain ⟨low, repeats⟩ := ih part
      exact ⟨Nat.succ_le_succ low, repeats, of_run_times whole⟩
  | sequence left right ih ih' | choice left right ih ih' =>
    cases room with
    | zero => cases ran
    | succ room =>
      obtain ⟨_, _, first, rest⟩ := of_run_bind ran
      obtain ⟨_, _, second, _⟩ := of_run_bind rest
      obtain ⟨low, repeats⟩ := ih first
      obtain ⟨low', repeats'⟩ := ih' second
      exact ⟨Nat.succ_le_succ (Nat.max_le.mpr ⟨low, low'⟩), repeats, repeats'⟩

end Emitted

theorem nodes_of_compile {expression : Expression} {grammar : Grammar}
    (compiled : expression.compile = .ok grammar) : grammar.nodes = (expression.nodes 0).toArray := by
  unfold Expression.compile at compiled
  split at compiled
  next emitted =>
    obtain ⟨low, repeats⟩ := valid_of_emit emitted
    obtain ⟨other, again, nodes, _⟩ := compile_eq low repeats
    unfold Expression.compile at again
    rw [emitted] at again
    cases compiled.symm.trans again
    exact nodes
  · cases compiled

theorem isRule_nodes (expression : Expression) (base : Nat) :
    ∀ node ∈ expression.nodes base, node.isRule = false := by
  induction expression generalizing base with
  | literal text => exact List.forall_mem_singleton.mpr rfl
  | modified inner modifier ih =>
    cases modifier with
    | oneOrMore =>
      exact List.forall_mem_append.mpr ⟨ih base, List.forall_mem_cons.mpr ⟨rfl, List.forall_mem_singleton.mpr rfl⟩⟩
    | optional | negate => exact List.forall_mem_append.mpr ⟨ih base, List.forall_mem_singleton.mpr rfl⟩
  | times inner count ih => exact List.forall_mem_append.mpr ⟨ih base, List.forall_mem_singleton.mpr rfl⟩
  | sequence left right ih ih' | choice left right ih ih' =>
    have parts := List.forall_mem_append.mpr ⟨ih base, ih' (base + left.rootPlace + 1)⟩
    exact List.forall_mem_append.mpr ⟨parts, List.forall_mem_singleton.mpr rfl⟩

end Proofs
end Peg
