/-! Quoted literals. Inside the quotes a backslash stands before every quote and every backslash,
and all other characters, line feeds included, stand for themselves. -/

namespace Peg.Text.Quoted

def isEscaped (c : Char) : Bool := c == '"' || c == '\\'

def body : List Char → List Char
  | [] => []
  | c :: rest => if isEscaped c then '\\' :: c :: body rest else c :: body rest

def encode (text : String) : String :=
  "\"" ++ String.ofList (body text.toList) ++ "\""

/-- Reads the characters of a quoted literal, the first of which has the given offset, as far as
`last`, the offset of the closing quote. The error is the offset of the first backslash that does
not stand before a quote or a backslash, together with the character after it. -/
def decodeFrom (last offset : Nat) : List Char → Except (Nat × Char) (List Char)
  | [] => .ok []
  | c :: rest =>
    if offset = last then .ok []
    else if c = '\\' then
      match rest with
      | [] => .ok []
      | escaped :: rest =>
        if isEscaped escaped then (decodeFrom last (offset + 2) rest).map (escaped :: ·)
        else .error (offset, escaped)
    else (decodeFrom last (offset + 1) rest).map (c :: ·)

section Decoding
variable {c : Char}

theorem decodeFrom_closing (offset : Nat) (c : Char) (rest : List Char) :
    decodeFrom offset offset (c :: rest) = .ok [] := by
  unfold decodeFrom
  exact if_pos rfl

theorem decodeFrom_plain (plain : c ≠ '\\') (offset size : Nat) (rest : List Char) :
    decodeFrom (offset + (size + 1)) offset (c :: rest) =
      (decodeFrom (offset + 1 + size) (offset + 1) rest).map (c :: ·) := by
  have before : offset ≠ offset + (size + 1) := by omega
  have same : offset + (size + 1) = offset + 1 + size := by omega
  conv => lhs; unfold decodeFrom
  rw [if_neg before, if_neg plain, same]

/-- The character behind a backslash is read with it, so its offset is never held against that of the
closing quote. -/
theorem decodeFrom_escape (c : Char) (offset size : Nat) (rest : List Char) :
    decodeFrom (offset + (size + 2)) offset ('\\' :: c :: rest) =
      if isEscaped c then (decodeFrom (offset + 2 + size) (offset + 2) rest).map (c :: ·)
      else .error (offset, c) := by
  have before : offset ≠ offset + (size + 2) := by omega
  have same : offset + (size + 2) = offset + 2 + size := by omega
  conv => lhs; unfold decodeFrom
  rw [if_neg before, if_pos rfl, same]

theorem decodeFrom_body (offset : Nat) (text rest : List Char) :
    decodeFrom (offset + (body text).length) offset (body text ++ '"' :: rest) = .ok text := by
  induction text generalizing offset with
  | nil => exact decodeFrom_closing offset '"' rest
  | cons c text ih =>
    unfold body
    split
    · next escaped =>
      have read := decodeFrom_escape c offset (body text).length (body text ++ '"' :: rest)
      rw [if_pos escaped, ih (offset + 2)] at read
      exact read
    · next single =>
      have plain : c ≠ '\\' := fun same => single (by simp [same, isEscaped])
      have read := decodeFrom_plain plain offset (body text).length (body text ++ '"' :: rest)
      rw [ih (offset + 1)] at read
      exact read

end Decoding

end Peg.Text.Quoted
