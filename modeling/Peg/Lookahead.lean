/-! A list that is consumed from the front and seen through a window of fixed width. The window is
kept full as long as items are left. -/

namespace Peg

/-- The next items, at most `width` of them, and those behind the window. -/
structure Lookahead (α : Type) where
  width : Nat
  window : List α
  pending : List α
deriving Repr

namespace Lookahead

variable {α : Type}

def ofList (width : Nat) (items : List α) : Lookahead α :=
  ⟨width, items.take width, items.drop width⟩

def peek (items : Lookahead α) (offset : Nat) : Option α :=
  if offset < items.width then items.window[offset]? else none

/-- The next item and the list without it. The first item behind the window moves into it. -/
def next : Lookahead α → Option α × Lookahead α
  | ⟨width, [], pending⟩ => (none, ⟨width, [], pending⟩)
  | ⟨width, item :: window, []⟩ => (some item, ⟨width, window, []⟩)
  | ⟨width, item :: window, following :: pending⟩ =>
    (some item, ⟨width, window ++ [following], pending⟩)

def toList (items : Lookahead α) : List α := items.window ++ items.pending

def Full (items : Lookahead α) : Prop :=
  items.window.length = min items.width items.toList.length

@[simp] theorem toList_ofList (width : Nat) (items : List α) :
    (ofList width items).toList = items :=
  List.take_append_drop width items

theorem full_ofList (width : Nat) (items : List α) : (ofList width items).Full := by
  simp [Full, ofList, toList]

@[simp] theorem width_next (items : Lookahead α) : items.next.2.width = items.width := by
  unfold next
  split <;> rfl

theorem full_next {items : Lookahead α} (full : items.Full) : items.next.2.Full := by
  unfold next
  split <;> simp_all [Full, toList] <;> omega

theorem pending_eq_nil {width : Nat} {pending : List α} (wide : 0 < width)
    (full : (Lookahead.mk width [] pending).Full) : pending = [] := by
  have size : 0 = min width pending.length := by simpa [Full, toList] using full
  exact List.eq_nil_of_length_eq_zero (by omega)

theorem next_eq {items : Lookahead α} (full : items.Full) (wide : 0 < items.width) :
    items.next.1 = items.toList.head? ∧ items.next.2.toList = items.toList.tail := by
  obtain ⟨width, window, pending⟩ := items
  cases window with
  | nil =>
    cases pending_eq_nil wide full
    exact ⟨rfl, rfl⟩
  | cons item window => cases pending <;> simp [next, toList]

theorem peek_eq {items : Lookahead α} (full : items.Full) (offset : Nat) :
    items.peek offset = if offset < items.width then items.toList[offset]? else none := by
  unfold peek
  split
  · next inside =>
    have size : items.toList.length = items.window.length + items.pending.length := by
      simp [toList]
    unfold Full at full
    by_cases shown : offset < items.window.length
    · simp [toList, List.getElem?_append_left shown]
    · rw [List.getElem?_eq_none (by omega), List.getElem?_eq_none (by omega)]
  · rfl

theorem mem_of_peek {items : Lookahead α} {offset : Nat} {item : α}
    (seen : items.peek offset = some item) : item ∈ items.toList := by
  unfold peek at seen
  split at seen
  · exact List.mem_append_left _ (List.mem_of_getElem? seen)
  · cases seen

theorem mem_of_next {items : Lookahead α} {item : α} (taken : items.next.1 = some item) : item ∈ items.toList := by
  obtain ⟨width, window, pending⟩ := items
  cases window with
  | nil => cases taken
  | cons head window => cases pending <;> cases taken <;> exact List.mem_cons_self

theorem mem_of_mem_next {items : Lookahead α} {item : α} (left : item ∈ items.next.2.toList) :
    item ∈ items.toList := by
  obtain ⟨width, window, pending⟩ := items
  cases window with
  | nil => exact left
  | cons head window =>
    cases pending with
    | nil => exact List.mem_cons_of_mem _ left
    | cons following pending =>
      refine List.mem_cons_of_mem _ ?_
      have left : item ∈ window ++ [following] ++ pending := left
      rwa [List.append_assoc] at left

end Lookahead
end Peg
