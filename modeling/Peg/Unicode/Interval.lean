/-! Sets of code points as unions of closed intervals. A property table lists its intervals in
increasing order, so membership stops at the first interval that lies beyond the code point. -/

namespace Peg.Unicode

/-- The code points from `first` to `last`, both included. -/
structure Interval where
  first : Nat
  last : Nat
deriving Repr, DecidableEq

namespace Interval

/-- Every interval ends before the next one starts. -/
def Increasing : List Interval → Prop
  | [] => True
  | [interval] => interval.first ≤ interval.last
  | interval :: next :: rest =>
    interval.first ≤ interval.last ∧ interval.last < next.first ∧ Increasing (next :: rest)

instance decidableIncreasing : (table : List Interval) → Decidable (Increasing table)
  | [] => isTrue trivial
  | [interval] => inferInstanceAs (Decidable (interval.first ≤ interval.last))
  | interval :: next :: rest =>
    have := decidableIncreasing (next :: rest)
    inferInstanceAs (Decidable
      (interval.first ≤ interval.last ∧ interval.last < next.first ∧ Increasing (next :: rest)))

/-- The code points of a table: those of any of its intervals. -/
def Within (table : List Interval) (code : Nat) : Prop :=
  ∃ member ∈ table, member.first ≤ code ∧ code ≤ member.last

def covers : List Interval → Nat → Bool
  | [], _ => false
  | interval :: rest, code =>
    if code < interval.first then false
    else if code ≤ interval.last then true
    else covers rest code

theorem Increasing.lt_first {interval : Interval} {rest : List Interval} {code : Nat}
    (sorted : Increasing (interval :: rest)) (before : code < interval.first) :
    ∀ member ∈ interval :: rest, code < member.first := by
  induction rest generalizing interval with
  | nil =>
    intro member found
    rw [List.mem_singleton.mp found]
    exact before
  | cons next rest ih =>
    obtain ⟨proper, apart, others⟩ := sorted
    intro member found
    rcases List.mem_cons.mp found with rfl | found
    · exact before
    · exact ih others (by omega) member found

theorem Increasing.tail {interval : Interval} {rest : List Interval}
    (sorted : Increasing (interval :: rest)) : Increasing rest := by
  cases rest with
  | nil => trivial
  | cons next rest => exact sorted.2.2

theorem not_within {interval : Interval} {rest : List Interval} {code : Nat}
    (sorted : Increasing (interval :: rest)) (before : code < interval.first) : ¬ Within (interval :: rest) code := by
  intro ⟨member, found, begun, _⟩
  exact Nat.not_le_of_lt (sorted.lt_first before member found) begun

/-- Stopping early loses nothing: an increasing table covers the union of its intervals. -/
theorem covers_iff {table : List Interval} (sorted : Increasing table) (code : Nat) :
    covers table code = true ↔ Within table code := by
  induction table with
  | nil => simp [covers, Within]
  | cons interval rest ih =>
    unfold covers
    split
    · next before => exact iff_of_false Bool.false_ne_true (not_within sorted before)
    · split
      · next begun within =>
        exact ⟨fun _ => ⟨interval, List.mem_cons_self, by omega, within⟩, fun _ => rfl⟩
      · next begun beyond =>
        rw [ih sorted.tail, Within]
        constructor
        · rintro ⟨member, found, inside⟩
          exact ⟨member, List.mem_cons_of_mem _ found, inside⟩
        · rintro ⟨member, found, inside⟩
          rcases List.mem_cons.mp found with rfl | found
          · omega
          · exact ⟨member, found, inside⟩

theorem ascii_or_covers_iff {interval : Interval} {rest : List Interval} {ascii : Char → Bool}
    (sorted : Increasing (interval :: rest)) (beyond : 0x80 ≤ interval.first)
    (low : ∀ c, ascii c = true → c.toNat < 0x80) (c : Char) :
    (if c.val < 0x80 then ascii c else covers (interval :: rest) c.toNat) = true ↔
      ascii c = true ∨ Within (interval :: rest) c.toNat := by
  split
  · next below =>
    have inside : c.toNat < 0x80 := UInt32.lt_iff_toNat_lt.mp below
    exact (or_iff_left (not_within sorted (Nat.lt_of_lt_of_le inside beyond))).symm
  · next above =>
    have other : ¬ ascii c = true := fun known => above (UInt32.lt_iff_toNat_lt.mpr (low c known))
    rw [covers_iff sorted]
    exact (or_iff_right other).symm

end Interval
end Peg.Unicode
