import Peg.Lookahead

/-! Looks ahead and takings that follow each other in any order. What a call answers is told by the list and by the
number of items taken before it, whatever was looked at in between: the window is kept full by every call, so what
stands in it is what comes next. -/

namespace Peg
namespace Lookahead

/-- What can be asked of a list that is taken from the front. -/
inductive Call where
  | peek (offset : Nat)
  | next
deriving DecidableEq, Repr

variable {α : Type}

/-- The answer to a call, and what is left for the calls after it. -/
def call (state : Lookahead α) : Call → Option α × Lookahead α
  | .peek offset => (state.peek offset, state)
  | .next => state.next

def after (state : Lookahead α) (calls : List Call) : Lookahead α :=
  calls.foldl (fun left request => (left.call request).2) state

def answers (state : Lookahead α) : List Call → List (Option α)
  | [] => []
  | request :: later => (state.call request).1 :: (state.call request).2.answers later

/-- Those among the answers that were given to `next`. -/
def taken (state : Lookahead α) (calls : List Call) : List (Option α) :=
  (calls.zip (state.answers calls)).filterMap fun (request, answer) =>
    if request = .next then some answer else none

/-- The answer of the list itself to a call before which `count` items were taken. -/
def Call.answer (width : Nat) (items : List α) (count : Nat) : Call → Option α
  | .peek offset => if offset < width then items[count + offset]? else none
  | .next => items[count]?

/-- The window has its width and is full, and all but the first `count` items stand in it and behind it. -/
structure Shows (state : Lookahead α) (width : Nat) (items : List α) (count : Nat) : Prop where
  width_eq : state.width = width
  wide : 0 < state.width
  full : state.Full
  toList_eq : state.toList = items.drop count

section Answers
variable (state : Lookahead α)

theorem length_answers (calls : List Call) : (state.answers calls).length = calls.length := by
  induction calls generalizing state with
  | nil => rfl
  | cons request later ih => exact congrArg (· + 1) (ih (state.call request).2)

theorem answers_append (before later : List Call) :
    state.answers (before ++ later) = state.answers before ++ (state.after before).answers later := by
  induction before generalizing state with
  | nil => rfl
  | cons request before ih => exact congrArg ((state.call request).1 :: ·) (ih (state.call request).2)

theorem answers_without_peek (before later : List Call) (offset : Nat) :
    (state.answers (before ++ .peek offset :: later)).eraseIdx before.length = state.answers (before ++ later) := by
  have place : (state.answers before).length ≤ before.length := Nat.le_of_eq (state.length_answers before)
  rw [answers_append, answers_append, List.eraseIdx_append_of_length_le place, length_answers, Nat.sub_self]
  rfl

theorem taken_peek (offset : Nat) (later : List Call) : state.taken (.peek offset :: later) = state.taken later :=
  rfl

theorem taken_next (later : List Call) : state.taken (.next :: later) = state.next.1 :: state.next.2.taken later :=
  rfl

end Answers

section Steps
variable {state : Lookahead α} {width count : Nat} {items : List α}

theorem shows_ofList (wide : 0 < width) (items : List α) : (ofList width items).Shows width items 0 where
  width_eq := rfl
  wide := wide
  full := full_ofList width items
  toList_eq := toList_ofList width items

theorem Shows.answer (shows : state.Shows width items count) (request : Call) :
    (state.call request).1 = request.answer width items count := by
  cases request with
  | peek offset =>
    have seen := peek_eq shows.full offset
    rwa [shows.width_eq, shows.toList_eq, List.getElem?_drop] at seen
  | next =>
    have taken := (next_eq shows.full shows.wide).1
    rwa [shows.toList_eq, List.head?_drop] at taken

theorem Shows.call (shows : state.Shows width items count) (request : Call) :
    (state.call request).2.Shows width items (count + [request].count .next) := by
  cases request with
  | peek offset => exact shows
  | next =>
    have width_eq : state.next.2.width = state.width := width_next state
    have left := (next_eq shows.full shows.wide).2
    rw [shows.toList_eq, List.tail_drop] at left
    exact ⟨width_eq.trans shows.width_eq, width_eq ▸ shows.wide, full_next shows.full, left⟩

theorem Shows.after (shows : state.Shows width items count) (calls : List Call) :
    (state.after calls).Shows width items (count + calls.count .next) := by
  induction calls generalizing state count with
  | nil => exact shows
  | cons request later ih =>
    have behind := ih (shows.call request)
    rwa [Nat.add_assoc, ← List.count_append] at behind

theorem Shows.taken (shows : state.Shows width items count) (calls : List Call) :
    state.taken calls = (List.range' count (calls.count .next)).map (items[·]?) := by
  induction calls generalizing state count with
  | nil => rfl
  | cons request later ih =>
    have rest := ih (shows.call request)
    cases request with
    | peek offset => exact (taken_peek state offset later).trans rest
    | next =>
      have first : state.next.1 = items[count]? := shows.answer .next
      rw [taken_next, first, List.count_cons_self, List.range'_succ, List.map_cons]
      exact congrArg (items[count]? :: ·) rest

theorem Shows.next_append (shows : state.Shows width items count) :
    state.next.1.toList ++ state.next.2.toList = state.toList := by
  obtain ⟨first, left⟩ := next_eq shows.full shows.wide
  rw [first, left]
  cases state.toList <;> rfl

theorem Shows.taken_append (shows : state.Shows width items count) (calls : List Call) :
    (state.taken calls).filterMap id ++ (state.after calls).toList = state.toList := by
  induction calls generalizing state count with
  | nil => rfl
  | cons request later ih =>
    have rest := ih (shows.call request)
    cases request with
    | peek offset => exact rest
    -- At the end of the list `next` answers none and leaves what there was, so the sum holds there as well.
    | next =>
      calc (state.next.1 :: state.next.2.taken later).filterMap id ++ (state.next.2.after later).toList
        _ = state.next.1.toList ++
            ((state.next.2.taken later).filterMap id ++ (state.next.2.after later).toList) := by
          cases state.next.1 <;> rfl
        _ = state.next.1.toList ++ state.next.2.toList := congrArg (state.next.1.toList ++ ·) rest
        _ = state.toList := shows.next_append

end Steps

end Lookahead

namespace Proofs
open Lookahead (Call ofList shows_ofList)

/-- In any interleaving of calls, a look sees the item that far ahead if its place is within the window, and `next`
gives the next item. A look changes no other answer. The answers to `next` are the items in their order and none
behind the last of them; what was taken and what is left make up the list. -/
theorem answers_follow_list {α : Type} (items : List α) {width : Nat} (wide : 0 < width) :
    let start := ofList width items
    (∀ before request later, (start.answers (before ++ request :: later))[before.length]? =
      some (request.answer width items (before.count .next))) ∧
    (∀ before offset later, (start.answers (before ++ .peek offset :: later)).eraseIdx before.length =
      start.answers (before ++ later)) ∧
    (∀ calls, start.taken calls = (List.range (calls.count .next)).map (items[·]?)) ∧
    ∀ calls, (start.taken calls).filterMap id ++ (start.after calls).toList = items := by
  intro start
  have shows : start.Shows width items 0 := shows_ofList wide items
  refine ⟨?_, fun before offset later => start.answers_without_peek before later offset, ?_, ?_⟩
  · intro before request later
    have behind := shows.after before
    rw [Nat.zero_add] at behind
    have place : (start.answers before).length = before.length := start.length_answers before
    rw [start.answers_append, List.getElem?_append_right (Nat.le_of_eq place), place, Nat.sub_self]
    exact congrArg some (behind.answer request)
  · intro calls
    rw [List.range_eq_range']
    exact shows.taken calls
  · intro calls
    exact (shows.taken_append calls).trans shows.toList_eq

/-- A window of two over three letters: a look past the window sees nothing while a letter is left there, and the
window runs dry with the list. -/
theorem letters_are_taken_in_turn :
    let start := ofList 2 ['a', 'b', 'c']
    let calls : List Call := [.next, .peek 1, .next, .peek 1, .next, .next]
    0 < 2 ∧ (start.answers [.peek 2])[0]? = some none ∧ (start.answers calls)[1]? = some (some 'c') ∧
      (start.answers calls)[3]? = some none ∧
      (start.answers calls).eraseIdx 1 = start.answers [.next, .next, .peek 1, .next, .next] ∧
      start.taken calls = [some 'a', some 'b', some 'c', none] ∧
      (start.taken calls).filterMap id ++ (start.after calls).toList = ['a', 'b', 'c'] := by
  intro start calls
  have wide : 0 < 2 := by decide
  obtain ⟨each, unmarked, turns, kept⟩ := answers_follow_list ['a', 'b', 'c'] wide
  exact ⟨wide, each [] (.peek 2) [], each [.next] (.peek 1) [.next, .peek 1, .next, .next],
    each [.next, .peek 1, .next] (.peek 1) [.next, .next],
    unmarked [.next] 1 [.next, .peek 1, .next, .next], turns calls, kept calls⟩

end Proofs
end Peg
