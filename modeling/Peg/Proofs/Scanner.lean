import Peg.Proofs.Spelling

/-! A scanner for the tokens of expressions that looks at the characters themselves and locates
every token in the whole text anew. The lexer, which finds its tokens by runs of the token graph and
counts lines and columns on from token to token, gives the same tokens, ranges and errors. -/

namespace Peg

namespace Scanner

/-- What a literal is made of: characters that stand for themselves, and characters behind a
backslash. -/
inductive Element where
  | plain (c : Char)
  | escape (c : Char)

def written (parts : List Element) : List Char :=
  parts.flatMap fun
    | .plain c => [c]
    | .escape c => ['\\', c]

/-- The elements behind an opening quote, up to the first quote that is not behind a backslash, if
there is one. -/
def elements : List Char → Option (List Element)
  | [] | ['\\'] => none
  | '\\' :: c :: rest => (elements rest).map (.escape c :: ·)
  | c :: rest => if c = '"' then some [] else (elements rest).map (.plain c :: ·)

/-- The text of a literal whose elements start at `index`. Only quotes and backslashes may stand
behind a backslash. -/
def decode (text : List Char) (index : Nat) : List Element → Except SyntaxError (List Char)
  | [] => .ok []
  | .plain c :: rest => (decode text (index + 1) rest).map (c :: ·)
  | .escape c :: rest =>
    if c = '"' ∨ c = '\\' then (decode text (index + 2) rest).map (c :: ·)
    else .error (.located (.unsupportedEscape c) (Location.locate text index))

/-- A word in lower case is a keyword, or an `x` before a number of 64 bits, or else bare. -/
def classify (text : List Char) (index : Nat) (word : List Char) : Except SyntaxError Token :=
  let lower := word.flatMap Unicode.lowercase
  let digits := lower.tail
  if lower = ['t', 'h', 'e', 'n'] then .ok .then_
  else if lower = ['o', 'r'] then .ok .or_
  else if lower.head? = some 'x' ∧ (!digits.isEmpty && digits.all Char.isDigit) = true then
    if Nat.ofDigitChars 10 digits 0 < 2 ^ 64 then .ok (.times (Nat.ofDigitChars 10 digits 0))
    else .error (.located (.countTooLarge (String.ofList digits)) (Location.locate text index))
  else .ok (.word (String.ofList word))

def symbol? : Char → Option Token
  | '+' => some .plus
  | '?' => some .question
  | '-' => some .minus
  | '(' => some .leftParen
  | ')' => some .rightParen
  | _ => none

/-- The token that starts with `first` at `index`, and the number of characters that it takes from
the rest. -/
def token (text : List Char) (index : Nat) (first : Char) (rest : List Char) :
    Except SyntaxError (Token × Nat) :=
  if first = '"' then
    match elements rest with
    | some parts =>
      (decode text (index + 1) parts).map fun chars => (.literal (String.ofList chars), (written parts).length + 1)
    | none => .error (.located .unclosedLiteral (Location.locate text index))
  else if CharClass.isBareWord first then
    let others := rest.takeWhile CharClass.isBareWord
    (classify text index (first :: others)).map (·, others.length)
  else
    match symbol? first with
    | some token => .ok (token, 0)
    | none => .error (.located (.unexpectedChar first) (Location.locate text index))

theorem lt_of_visible {chars rest : List Char} {first : Char}
    (visible : chars.dropWhile Unicode.isWhiteSpace = first :: rest) : rest.length < chars.length := by
  have kept : (chars.dropWhile Unicode.isWhiteSpace).length ≤ chars.length := (List.dropWhile_suffix _).length_le
  rwa [visible, List.length_cons] at kept

/-- The tokens of what is left of a text from `index` on. -/
def lexemes (text : List Char) (index : Nat) (chars : List Char) : Except SyntaxError (List Lexeme) :=
  let start := index + (chars.takeWhile Unicode.isWhiteSpace).length
  match visible : chars.dropWhile Unicode.isWhiteSpace with
  | [] => .ok []
  | first :: rest =>
    have := lt_of_visible visible
    match token text start first rest with
    | .error error => .error error
    | .ok (found, more) =>
      match lexemes text (start + more + 1) (rest.drop more) with
      | .error error => .error error
      | .ok others => .ok (⟨found, { Location.locate text start with length := more + 1 }⟩ :: others)
termination_by chars.length

def scan (text : String) : Except SyntaxError (List Lexeme) := lexemes text.toList 0 text.toList

end Scanner

namespace Proofs
open Scanner

section Literals
variable {chars rest : List Char} {parts : List Element} {c : Char}

theorem ne_backslash (single : c = '\\' → rest = [] → False) (pair : ∀ next others, c = '\\' → rest = next :: others → False) :
    c ≠ '\\' := by
  intro same
  cases rest with
  | nil => exact single same rfl
  | cons next others => exact pair next others same rfl

theorem elements_eq_some (found : elements chars = some parts) :
    bodySize chars = (written parts).length ∧ ∃ rest, chars = written parts ++ '"' :: rest := by
  fun_induction elements chars generalizing parts with
  | case1 | case2 => cases found
  | case3 c rest ih =>
    obtain ⟨others, read, rfl⟩ := Option.map_eq_some_iff.mp found
    obtain ⟨size, behind, rfl⟩ := ih read
    exact ⟨congrArg (· + 2) size, behind, rfl⟩
  | case4 rest =>
    cases found
    exact ⟨rfl, rest, rfl⟩
  | case5 c rest single pair notQuote ih =>
    obtain ⟨others, read, rfl⟩ := Option.map_eq_some_iff.mp found
    obtain ⟨size, behind, rfl⟩ := ih read
    rw [bodySize_plain notQuote (ne_backslash single pair), size]
    exact ⟨rfl, behind, rfl⟩

theorem elements_eq_none (missing : elements chars = none) : (chars.drop (bodySize chars)).head? ≠ some '"' := by
  fun_induction elements chars with
  | case1 => nofun
  | case2 => nofun
  | case3 c rest ih => exact ih (Option.map_eq_none_iff.mp missing)
  | case4 => cases missing
  | case5 c rest single pair notQuote ih =>
    rw [bodySize_plain notQuote (ne_backslash single pair)]
    exact ih (Option.map_eq_none_iff.mp missing)

theorem quotedSize_eq (rest : List Char) :
    quotedSize ('"' :: rest) = (elements rest).map fun parts => (written parts).length + 2 := by
  rw [quotedSize]
  cases found : elements rest with
  | none => exact if_neg (elements_eq_none found)
  | some parts =>
    obtain ⟨size, behind, rfl⟩ := elements_eq_some found
    rw [size, if_pos (by rw [List.drop_left]; rfl)]
    rfl

theorem located_map {α β : Type} (source : Source) (start : Nat) (decoded : Except (Nat × Char) α) (next : α → β) :
    located source start (decoded.map next) = (located source start decoded).map next := by
  cases decoded <;> rfl

theorem location_eq {source : Source} {index : Nat} (inside : index ≤ source.size) :
    source.location index = Location.locate source.scalars.toList index := by
  rw [Source.location, Nat.min_eq_left inside]

/-- Every element begins before the closing quote and is read as a whole, so the end of the literal is found at its
closing quote and never at an escaped one. -/
theorem decodeFrom_written {source : Source} {start offset : Nat} (found : elements chars = some parts)
    (inside : start + offset + (written parts).length ≤ source.size) (rest : List Char) :
    located source start
        (Text.Quoted.decodeFrom (offset + (written parts).length) offset (written parts ++ '"' :: rest)) =
      decode source.scalars.toList (start + offset) parts := by
  fun_induction elements chars generalizing parts offset with
  | case1 | case2 => cases found
  | case3 c _ ih =>
    obtain ⟨others, read, rfl⟩ := Option.map_eq_some_iff.mp found
    have inside : start + offset + ((written others).length + 2) ≤ source.size := inside
    have within : start + (offset + 2) + (written others).length ≤ source.size := by omega
    have behind := ih read within
    have first := Text.Quoted.decodeFrom_escape c offset (written others).length (written others ++ '"' :: rest)
    refine (congrArg (located source start) first).trans ?_
    rw [decode]
    by_cases known : c = '"' ∨ c = '\\'
    · rw [if_pos (by simpa [Text.Quoted.isEscaped] using known), if_pos known, located_map, behind]
      rfl
    · rw [if_neg (by simpa [Text.Quoted.isEscaped] using known), if_neg known, ← location_eq (by omega)]
      rfl
  | case4 =>
    cases found
    exact congrArg (located source start) (Text.Quoted.decodeFrom_closing offset '"' rest)
  | case5 c _ single pair _ ih =>
    obtain ⟨others, read, rfl⟩ := Option.map_eq_some_iff.mp found
    have inside : start + offset + ((written others).length + 1) ≤ source.size := inside
    have within : start + (offset + 1) + (written others).length ≤ source.size := by omega
    have behind := ih read within
    have first := Text.Quoted.decodeFrom_plain (ne_backslash single pair) offset (written others).length
      (written others ++ '"' :: rest)
    refine (congrArg (located source start) first).trans ?_
    rw [located_map, behind, decode]
    rfl

end Literals

section Tokens
variable {source : Source} {start : Nat} {first : Char} {rest : List Char}

theorem literal_eq {parts : List Element} (found : elements rest = some parts) (name : Option String)
    (inside : start + 1 + (written parts).length ≤ source.size) :
    Lexer.literal source ⟨⟨start, start + ((written parts).length + 2)⟩, name,
        String.ofList ('"' :: (written parts ++ ['"']))⟩ =
      (decode source.scalars.toList (start + 1) parts).map (.literal ∘ String.ofList) := by
  have size : Span.size ⟨start, start + ((written parts).length + 2)⟩ = (written parts).length + 2 :=
    Nat.add_sub_cancel_left ..
  rw [literal_quoted source name size, ← decodeFrom_written found inside []]

theorem word_eq (word : List Char) (stop : Nat) (name : Option String) (inside : start ≤ source.size) :
    Lexer.word source ⟨⟨start, stop⟩, name, String.ofList word⟩ = classify source.scalars.toList start word := by
  rw [Lexer.word, classify, String.toList_ofList, ← location_eq inside]
  generalize word.flatMap Unicode.lowercase = lower
  split
  · rfl
  · rfl
  · next digits =>
    have value : Lexer.decimal digits = Nat.ofDigitChars 10 digits 0 := Nat.ofDigitChars_eq_foldl.symm
    simp only [List.tail_cons, List.head?_cons, value, true_and]
    rfl
  · next notThen notOr notCount =>
    have notCount : lower.head? ≠ some 'x' := by
      intro head
      obtain ⟨digits, rfl⟩ := List.head?_eq_some_iff.mp head
      exact notCount digits rfl
    rw [if_neg notThen, if_neg notOr, if_neg fun count => notCount count.1]

theorem symbol_eq {token : Token} (known : symbol? first = some token) :
    (∀ rest, symbolSize (first :: rest) = some 1) ∧
      ∀ span name, Lexer.symbol ⟨span, name, String.ofList [first]⟩ = token := by
  unfold symbol? at known
  split at known <;> cases known <;> exact ⟨fun _ => rfl, fun _ _ => rfl⟩

theorem symbolSize_eq_none (unknown : symbol? first = none) : symbolSize (first :: rest) = none := by
  unfold symbol? at unknown
  split at unknown <;> try cases unknown
  next plus question minus left right => exact if_neg (by simpa using ⟨plus, question, minus, left, right⟩)

theorem quote_apart : CharClass.isBareWord '"' = false := by decide +kernel

theorem quotedSize_eq_none (other : first ≠ '"') : quotedSize (first :: rest) = none := by
  unfold quotedSize
  split
  · next same => exact absurd (List.cons.inj same).1 other
  · rfl

/-- A token that was found, with the span that its further characters give it, at the end of which its run stops. -/
def spanned (start : Nat) (found : Token × Nat) : Token × Span × Nat :=
  (found.1, ⟨start, start + (found.2 + 1)⟩, start + (found.2 + 1))

section Finding
variable (inside : start ≤ source.size) (remains : Remains source.scalars start (first :: rest))
include inside remains

theorem unexpected_eq : Lexer.unexpected source start = if first = '"'
    then .located .unclosedLiteral (Location.locate source.scalars.toList start)
    else .located (.unexpectedChar first) (Location.locate source.scalars.toList start) := by
  have head : source.scalars[start]? = some first := remains.head
  rw [Lexer.unexpected, head, location_eq inside]
  split
  · next same =>
    cases same
    rfl
  · next other same =>
    cases same
    rw [if_neg other]
  · next none => cases none

theorem token_quoted (quote : first = '"') : Lexer.token source start =
    (token source.scalars.toList start first rest).map (spanned start) := by
  subst quote
  rw [token_eq inside remains, startingToken, quotedSize_eq, token, if_pos rfl]
  cases found : elements rest with
  | none =>
    have word : wordSize ('"' :: rest) = none := if_neg (by simp [quote_apart])
    have symbol : symbolSize ('"' :: rest) = none := symbolSize_eq_none rfl
    simp only [Option.map_none, word, symbol, Option.elim_none, unexpected_eq inside remains]
    rfl
  | some parts =>
    obtain ⟨_, behind, rfl⟩ := elements_eq_some found
    have length := remains.inside inside
    rw [List.length_cons, List.length_append, List.length_cons] at length
    have within : start + 1 + (written parts).length ≤ source.size := Nat.le_trans (by omega) (Nat.le_of_eq length)
    have text : ('"' :: (written parts ++ '"' :: behind)).take ((written parts).length + 2) =
        '"' :: (written parts ++ ['"']) := by
      rw [List.take_succ_cons, List.take_length_add_append, List.take_one, List.head?_cons]
      rfl
    simp only [Option.map_some, Option.elim_some, text, TokenKind.read, literal_eq found _ within]
    cases decode source.scalars.toList (start + 1) parts <;> rfl

theorem token_worded (other : first ≠ '"') (letter : CharClass.isBareWord first = true) :
    Lexer.token source start = (token source.scalars.toList start first rest).map (spanned start) := by
  have word : wordSize (first :: rest) = some ((rest.takeWhile CharClass.isBareWord).length + 1) := by
    rw [wordSize, if_pos (by exact letter), List.takeWhile_cons_of_pos letter]
    rfl
  have text : (first :: rest).take ((rest.takeWhile CharClass.isBareWord).length + 1) =
      first :: rest.takeWhile CharClass.isBareWord := by
    rw [List.take_succ_cons, ← List.prefix_iff_eq_take.mp (List.takeWhile_prefix _)]
  rw [token_eq inside remains, startingToken, quotedSize_eq_none other, word, token, if_neg other, if_pos letter]
  simp only [Option.elim_some, text, TokenKind.read, word_eq _ _ _ inside]
  cases classify source.scalars.toList start (first :: rest.takeWhile CharClass.isBareWord) <;> rfl

theorem token_marked (other : first ≠ '"') (notLetter : ¬ CharClass.isBareWord first = true) :
    Lexer.token source start = (token source.scalars.toList start first rest).map (spanned start) := by
  have word : wordSize (first :: rest) = none := if_neg notLetter
  rw [token_eq inside remains, startingToken, quotedSize_eq_none other, word, token, if_neg other, if_neg notLetter]
  cases known : symbol? first with
  | some token =>
    obtain ⟨size, read⟩ := symbol_eq known
    rw [size]
    simp only [Option.elim_some, List.take_succ_cons, List.take_zero, TokenKind.read, read]
    rfl
  | none =>
    rw [symbolSize_eq_none known]
    simp only [Option.elim_none, unexpected_eq inside remains, if_neg other]
    rfl

theorem token_scanned : Lexer.token source start =
    (token source.scalars.toList start first rest).map (spanned start) := by
  by_cases quote : first = '"'
  · exact token_quoted inside remains quote
  · by_cases letter : CharClass.isBareWord first = true
    · exact token_worded inside remains quote letter
    · exact token_marked inside remains quote letter

end Finding

theorem token_within {text : List Char} {found : Token} {more : Nat}
    (scanned : token text start first rest = .ok (found, more)) : more ≤ rest.length := by
  unfold token at scanned
  split at scanned
  · split at scanned
    · next parts found =>
      obtain ⟨_, behind, rfl⟩ := elements_eq_some found
      cases decoded : decode text (start + 1) parts with
      | error => rw [decoded] at scanned; cases scanned
      | ok =>
        rw [decoded] at scanned
        cases scanned
        simp only [List.length_append, List.length_cons]
        omega
    · cases scanned
  · split at scanned
    · dsimp only at scanned
      cases classified : classify text start (first :: rest.takeWhile CharClass.isBareWord) with
      | error => rw [classified] at scanned; cases scanned
      | ok =>
        rw [classified] at scanned
        cases scanned
        exact (List.takeWhile_prefix _).length_le
    · split at scanned
      · cases scanned
        exact Nat.zero_le _
      · cases scanned

end Tokens

section Locations
variable {text : List Char} {index start : Nat}

theorem locate_eq_after (inside : index ≤ text.length) :
    Location.locate text index = Location.after {} (text.take index) := by
  have same : (Location.after {} (text.take index)).index = index := by
    rw [Location.index_after, List.length_take, Nat.min_eq_left inside, Nat.zero_add]
  calc Location.locate text index
      = { Location.after {} (text.take index) with index := (Location.after {} (text.take index)).index } := by
        rw [same, Location.locate]
    _ = Location.after {} (text.take index) := rfl

theorem after_locate (ordered : index ≤ start) (inside : start ≤ text.length) :
    (Location.locate text index).after ((text.drop index).take (start - index)) = Location.locate text start := by
  rw [locate_eq_after (Nat.le_trans ordered inside), locate_eq_after inside, ← Location.after_append,
    ← List.take_add, Nat.add_sub_cancel' ordered]

/-- Behind a true place the lexer never falls back on the whole text, and each place is a true one again. -/
theorem locate_eq {source : Source} {before : Location} (ordered : before.index ≤ start) (inside : start ≤ source.size)
    (placed : before = Location.locate source.scalars.toList before.index) :
    Lexer.locate source before start =
      (Location.locate source.scalars.toList start, Location.locate source.scalars.toList start) := by
  have between : (source.slice ⟨before.index, start⟩).toList =
      (source.scalars.toList.drop before.index).take (start - before.index) := by
    rw [toList_slice_inside ordered inside, Array.toList_extract, List.extract_eq_take_drop]
  have here : before.after (source.slice ⟨before.index, start⟩).toList =
      Location.locate source.scalars.toList start := by
    rw [between, placed]
    exact after_locate ordered inside
  unfold Lexer.locate
  simp only [Nat.min_eq_left inside, if_neg (Nat.not_lt_of_le ordered), here]

end Locations

section Scanning
variable {text : List Char} {index position : Nat} {chars rest : List Char} {first : Char}

theorem lexemes_blank (blank : chars.dropWhile Unicode.isWhiteSpace = []) : lexemes text index chars = .ok [] := by
  rw [lexemes]
  split
  · rfl
  · next visible => cases blank.symm.trans visible

theorem lexemes_visible (visible : chars.dropWhile Unicode.isWhiteSpace = first :: rest) :
    let start := index + (chars.takeWhile Unicode.isWhiteSpace).length
    lexemes text index chars =
      match token text start first rest with
      | .error error => .error error
      | .ok (found, more) =>
        match lexemes text (start + more + 1) (rest.drop more) with
        | .error error => .error error
        | .ok others => .ok (⟨found, { Location.locate text start with length := more + 1 }⟩ :: others) := by
  rw [lexemes]
  split
  · next blank => cases blank.symm.trans visible
  · next same =>
    cases same.symm.trans visible
    rfl

theorem remains_visible {scalars : Array Char} (remains : Remains scalars position chars) :
    Remains scalars (position + (chars.takeWhile Unicode.isWhiteSpace).length)
      (chars.dropWhile Unicode.isWhiteSpace) := by
  have split : Remains scalars position
      (chars.takeWhile Unicode.isWhiteSpace ++ chars.dropWhile Unicode.isWhiteSpace) := by
    rwa [List.takeWhile_append_dropWhile]
  exact split.append

theorem tokensFrom_eq {source : Source} {located : Location} (remains : Remains source.scalars position chars)
    (inside : position ≤ source.size) (before : located.index ≤ position)
    (placed : located = Location.locate source.scalars.toList located.index) :
    Lexer.tokensFrom source position located = lexemes source.scalars.toList position chars := by
  generalize sized : chars.length = length
  induction length using Nat.strongRecOn generalizing position chars located with
  | ind length ih =>
    subst sized
    have left := remains_visible remains
    have bound : position + (chars.takeWhile Unicode.isWhiteSpace).length ≤ source.size := by
      have kept := (List.takeWhile_prefix Unicode.isWhiteSpace : _ <+: chars).length_le
      have size : position + chars.length = source.size := remains.inside inside
      omega
    rw [Lexer.tokensFrom, skipSpace_eq inside remains]
    dsimp only
    cases visible : chars.dropWhile Unicode.isWhiteSpace with
    | nil =>
      rw [visible] at left
      have size : position + (chars.takeWhile Unicode.isWhiteSpace).length = source.size := left.inside bound
      rw [if_pos (Nat.le_of_eq size.symm), lexemes_blank visible]
    | cons first rest =>
      rw [visible] at left
      rw [lexemes_visible visible]
      generalize starts : position + (chars.takeWhile Unicode.isWhiteSpace).length = start at left bound
      have ordered : located.index ≤ start := by omega
      have size : start + (rest.length + 1) = source.size := left.inside bound
      rw [if_neg (by omega), token_scanned bound left]
      cases scanned : token source.scalars.toList start first rest with
      | error => rfl
      | ok found =>
        obtain ⟨token, more⟩ := found
        have within := token_within scanned
        have behind : Remains source.scalars (start + (more + 1)) (rest.drop more) := by
          rw [Remains, ← Nat.add_assoc, Nat.add_right_comm, ← List.drop_drop, left.tail]
        have smaller : (rest.drop more).length < chars.length := by
          have shorter := lt_of_visible visible
          rw [List.length_drop]
          omega
        have place := locate_eq ordered bound placed
        have index : (Location.locate source.scalars.toList start).index = start := rfl
        have others := ih _ smaller behind (by omega)
          (Nat.le_trans (Nat.le_of_eq index) (Nat.le_add_right start _)) rfl rfl
        have width : Span.size ⟨start, start + (more + 1)⟩ = more + 1 := Nat.add_sub_cancel_left ..
        simp only [Except.map, spanned]
        rw [dif_pos (by omega), place, others, width]
        rfl

/-- The lexer, which runs the token graph under its default limits, and the scanner agree on every
text: in the tokens and their ranges, and in the error of a text that has no tokens. -/
theorem tokens_eq_scan (text : String) : Lexer.tokens text = Scanner.scan text :=
  tokensFrom_eq (List.drop_zero ..) (Nat.zero_le _) (Nat.le_refl 0) rfl

end Scanning

end Proofs
end Peg
