import Mathlib.Data.String.Basic
import Peg.Text.Source

/-! A slice holds the characters between its positions, although it is cut out by byte offsets. -/

namespace Peg.Proofs

theorem getElem?_byteOffsets {chars : List Char} {index : Nat} (inside : index ≤ chars.length) (offset : Nat) :
    (byteOffsets offset chars)[index]? = some (offset + String.utf8Len (chars.take index)) := by
  induction chars generalizing index offset with
  | nil =>
    obtain rfl := Nat.le_zero.mp inside
    rfl
  | cons c rest ih =>
    cases index with
    | zero => rfl
    | succ index =>
      rw [byteOffsets, List.getElem?_cons_succ, ih (Nat.le_of_succ_le_succ inside), List.take_succ_cons,
        String.utf8Len_cons, Nat.add_assoc, Nat.add_comm c.utf8Size]

theorem getElem?_offsets {source : Source} {index : Nat} (inside : index ≤ source.size) :
    source.offsets[index]? = some (String.utf8Len (source.text.toList.take index)) := by
  rw [source.size_eq, ← String.length_toList] at inside
  rw [source.offsets_eq, List.getElem?_toArray, getElem?_byteOffsets inside, Nat.zero_add]

theorem extract_between (chars : List Char) {start stop : Nat} (ordered : start ≤ stop) :
    String.Pos.Raw.extract (String.ofList chars) ⟨String.utf8Len (chars.take start)⟩
      ⟨String.utf8Len (chars.take stop)⟩ = String.ofList ((chars.take stop).drop start) := by
  have first : (chars.take stop).take start = chars.take start := by
    rw [List.take_take, Nat.min_eq_left ordered]
  have whole : chars = chars.take start ++ (chars.take stop).drop start ++ chars.drop stop := by
    rw [← first, List.take_append_drop, List.take_append_drop]
  have size : String.utf8Len (chars.take stop) =
      String.utf8Len (chars.take start) + String.utf8Len ((chars.take stop).drop start) := by
    rw [← String.utf8Len_append, ← first, List.take_append_drop]
  have cut := String.extract_of_valid (chars.take start) ((chars.take stop).drop start) (chars.drop stop)
  rwa [← whole, ← size] at cut

theorem toList_slice (source : Source) (span : Span) :
    let start := min span.start source.size
    let stop := max (min span.stop source.size) start
    (source.slice span).toList = (source.scalars.extract start stop).toList := by
  intro start stop
  have ordered : start ≤ stop := Nat.le_max_right _ _
  have inside : stop ≤ source.size := by omega
  have offset : ∀ index ≤ source.size,
      source.offsets.getD index 0 = String.utf8Len (source.text.toList.take index) := by
    intro index within
    rw [Array.getD_eq_getD_getElem?, getElem?_offsets within, Option.getD_some]
  have cut := extract_between source.text.toList ordered
  rw [String.ofList_toList, ← offset start (Nat.le_trans ordered inside), ← offset stop inside] at cut
  have same : source.slice span = String.ofList ((source.text.toList.take stop).drop start) := cut
  rw [same, source.scalars_eq, String.toList_ofList, Array.toList_extract, List.extract_eq_take_drop,
    List.drop_take]

theorem toList_slice_inside {source : Source} {span : Span} (ordered : span.start ≤ span.stop)
    (inside : span.stop ≤ source.size) :
    (source.slice span).toList = (source.scalars.extract span.start span.stop).toList := by
  refine (toList_slice source span).trans ?_
  rw [Nat.min_eq_left (Nat.le_trans ordered inside), Nat.min_eq_left inside, Nat.max_eq_left ordered]

end Peg.Proofs
