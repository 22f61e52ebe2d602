import Peg.Proofs.TokenRun

/-! The tokens that a text spells, and the lexer, which reads them. -/

namespace Peg.Proofs

/-- The text starts with these characters as a token of its own, wherever in a source it stands. -/
def Starts (chars : List Char) (token : Token) (rest : List Char) : Prop :=
  (∃ c, chars.head? = some c ∧ Unicode.isWhiteSpace c = false) ∧
  ∃ kind : TokenKind, startingToken (chars ++ rest) = some (kind, chars.length) ∧
    ∀ source start name,
      kind.read source ⟨⟨start, start + chars.length⟩, name, String.ofList chars⟩ = .ok token

inductive Spells : List Char → List Token → Prop where
  | done : Spells [] []
  | space {c rest tokens} (blank : Unicode.isWhiteSpace c = true) (others : Spells rest tokens) :
      Spells (c :: rest) tokens
  | token {chars token rest tokens} (starts : Starts chars token rest) (others : Spells rest tokens) :
      Spells (chars ++ rest) (token :: tokens)

theorem Remains.inside {scalars : Array Char} {position : Nat} {chars : List Char}
    (remains : Remains scalars position chars) (inside : position ≤ scalars.size) :
    position + chars.length = scalars.size := by
  rw [← remains, List.length_drop, Array.length_toList]
  omega

/-- Leading white space may be left to the next run over white space. -/
theorem Spells.reads {chars : List Char} {tokens : List Token} (spells : Spells chars tokens)
    {source : Source} {position start : Nat} (located : Location)
    (remains : Remains source.scalars position chars) (inside : position ≤ source.size)
    (before : start ≤ position) (skipped : Lexer.skipSpace source start = Lexer.skipSpace source position) :
    ∃ lexemes, Lexer.tokensFrom source start located = .ok lexemes ∧ lexemes.map Lexeme.token = tokens := by
  induction spells generalizing position start located with
  | done =>
    have size : position = source.size := remains.inside inside
    rw [skipSpace_eq inside remains] at skipped
    rw [Lexer.tokensFrom, skipped]
    exact ⟨[], if_pos (Nat.le_of_eq size.symm), rfl⟩
  | @space c rest tokens blank others ih =>
    have size : position + (rest.length + 1) = source.size := remains.inside inside
    have within : position + 1 ≤ source.size := by omega
    refine ih located remains.tail within (Nat.le_succ_of_le before) (skipped.trans ?_)
    rw [skipSpace_eq inside remains, skipSpace_eq within remains.tail, List.takeWhile_cons_of_pos blank,
      List.length_cons]
    exact congrArg Except.ok (by omega)
  | @token chars token rest tokens starts others ih =>
    obtain ⟨⟨c, head, visible⟩, kind, starting, read⟩ := starts
    obtain ⟨following, rfl⟩ := List.head?_eq_some_iff.mp head
    have size : position + ((c :: following) ++ rest).length = source.size := remains.inside inside
    rw [List.length_append, List.length_cons] at size
    have here : Lexer.skipSpace source start = .ok position := by
      rw [skipped, skipSpace_eq inside remains, List.cons_append, List.takeWhile_cons_of_neg (by simp [visible])]
      rfl
    have behind : position + (c :: following).length ≤ source.size := by
      rw [List.length_cons]
      omega
    have less : source.size - (position + (c :: following).length) < source.size - start := by
      rw [List.length_cons]
      omega
    have token : Lexer.token source position =
        .ok (token, ⟨position, position + (c :: following).length⟩, position + (c :: following).length) := by
      rw [token_eq inside remains, starting]
      simp only [Option.elim_some, List.take_left, read]
      rfl
    obtain ⟨lexemes, others, same⟩ :=
      ih (Lexer.locate source located position).2 remains.append behind (Nat.le_refl _) rfl
    rw [Lexer.tokensFrom, here]
    dsimp only
    rw [if_neg (by omega), token]
    dsimp only
    rw [dif_pos less, others]
    exact ⟨_, rfl, congrArg _ same⟩

theorem Spells.tokens {text : String} {tokens : List Token} (spells : Spells text.toList tokens) :
    ∃ lexemes, Lexer.tokens text = .ok lexemes ∧ lexemes.map Lexeme.token = tokens :=
  spells.reads {} (List.drop_zero ..) (Nat.zero_le _) (Nat.le_refl 0) rfl

section Literals

theorem bodySize_plain {c : Char} {rest : List Char} (notQuote : c ≠ '"') (notBackslash : c ≠ '\\') :
    bodySize (c :: rest) = bodySize rest + 1 := by
  rw [bodySize.eq_2 _ _ (by simp [notBackslash]), if_neg (not_or.mpr ⟨notQuote, notBackslash⟩)]

theorem bodySize_body (text rest : List Char) :
    bodySize (Text.Quoted.body text ++ '"' :: rest) = (Text.Quoted.body text).length := by
  induction text with
  | nil => simp [Text.Quoted.body, bodySize]
  | cons c text ih =>
    rw [Text.Quoted.body]
    split
    · rw [List.cons_append, List.cons_append, bodySize, ih]
      rfl
    · next plain =>
      have other : ¬ (c = '"' ∨ c = '\\') := by simpa [Text.Quoted.isEscaped] using plain
      obtain ⟨notQuote, notBackslash⟩ := not_or.mp other
      rw [List.cons_append, bodySize_plain notQuote notBackslash, ih]
      rfl

/-- What decoding reports, with a fault put where the source has it. -/
def located {α : Type} (source : Source) (start : Nat) (decoded : Except (Nat × Char) α) : Except SyntaxError α :=
  decoded.mapError fun (offset, c) => .located (.unsupportedEscape c) (source.location (start + offset))

theorem literal_quoted (source : Source) (name : Option String) {span : Span} {body : List Char}
    (size : span.size = body.length + 2) :
    Lexer.literal source ⟨span, name, String.ofList ('"' :: (body ++ ['"']))⟩ =
      (located source span.start (Text.Quoted.decodeFrom (1 + body.length) 1 (body ++ ['"']))).map
        (.literal ∘ String.ofList) := by
  have last : body.length + 2 - 1 = 1 + body.length := by omega
  rw [Lexer.literal]
  dsimp only [Match.size]
  rw [size, last, String.toList_ofList, List.drop_one, List.tail_cons]
  cases Text.Quoted.decodeFrom (1 + body.length) 1 (body ++ ['"']) <;> rfl

theorem starts_literal (text : String) (rest : List Char) :
    Starts (Text.Quoted.encode text).toList (.literal text) rest := by
  have shape : (Text.Quoted.encode text).toList = '"' :: (Text.Quoted.body text.toList ++ ['"']) := by
    simp [Text.Quoted.encode]
  rw [shape]
  refine ⟨⟨'"', rfl, by decide⟩, .literal, ?_, ?_⟩
  · have size := bodySize_body text.toList rest
    simp [startingToken, quotedSize, size]
  · intro source start name
    have size : Span.size ⟨start, start + ('"' :: (Text.Quoted.body text.toList ++ ['"'])).length⟩ =
        (Text.Quoted.body text.toList).length + 2 := by
      simp [Span.size]
    rw [TokenKind.read, literal_quoted source name size, Text.Quoted.decodeFrom_body]
    exact congrArg (Except.ok ∘ Token.literal) String.ofList_toList

end Literals

section Words
variable {chars rest : List Char} {token : Token}

theorem starts_word {c : Char} (visible : Unicode.isWhiteSpace c = false)
    (word : (c :: chars).all CharClass.isBareWord = true)
    (apart : rest.head?.any CharClass.isBareWord = false)
    (read : ∀ source span name, Lexer.word source ⟨span, name, String.ofList (c :: chars)⟩ = .ok token) :
    Starts (c :: chars) token rest := by
  refine ⟨⟨c, rfl, visible⟩, .word, ?_, fun source _ name => read source _ name⟩
  have word := List.all_eq_true.mp word
  have first : CharClass.isBareWord c = true := word c List.mem_cons_self
  have notQuote : c ≠ '"' := by
    rintro rfl
    exact absurd first (by decide +kernel)
  have quoted : quotedSize (c :: chars ++ rest) = none := by
    rw [List.cons_append, quotedSize]
    simp [notQuote]
  have behind : rest.takeWhile CharClass.isBareWord = [] := by
    cases rest with
    | nil => rfl
    | cons next rest => exact List.takeWhile_cons_of_neg (by simpa using apart)
  have size : wordSize (c :: chars ++ rest) = some (c :: chars).length := by
    have starts : (c :: chars ++ rest).head?.any CharClass.isBareWord = true := first
    rw [wordSize, if_pos starts, List.takeWhile_append_of_pos word, behind, List.append_nil]
  simp only [startingToken, quoted, size]

def symbols : List (Char × Token) :=
  [('+', .plus), ('?', .question), ('-', .minus), ('(', .leftParen), (')', .rightParen)]

theorem symbol_apart : ∀ symbol ∈ symbols, Unicode.isWhiteSpace symbol.1 = false ∧
    CharClass.isBareWord symbol.1 = false ∧ symbol.1 ≠ '"' ∧
    ['+', '?', '-', '(', ')'].contains symbol.1 = true := by
  decide +kernel

theorem starts_symbol {c : Char} (symbol : (c, token) ∈ symbols) : Starts [c] token rest := by
  obtain ⟨visible, notWord, notQuote, listed⟩ := symbol_apart _ symbol
  have read : ∀ source span name,
      TokenKind.symbol.read source ⟨span, name, String.ofList [c]⟩ = .ok token := by
    intro source span name
    simp only [symbols, List.mem_cons, List.not_mem_nil, or_false, Prod.mk.injEq] at symbol
    rcases symbol with ⟨rfl, rfl⟩ | ⟨rfl, rfl⟩ | ⟨rfl, rfl⟩ | ⟨rfl, rfl⟩ | ⟨rfl, rfl⟩ <;> rfl
  refine ⟨⟨c, rfl, visible⟩, .symbol, ?_, fun source _ name => read source _ name⟩
  have quoted : quotedSize ([c] ++ rest) = none := by
    rw [List.cons_append, quotedSize]
    simp [notQuote]
  have word : wordSize ([c] ++ rest) = none := if_neg (by simpa using notWord)
  have size : symbolSize ([c] ++ rest) = some 1 := if_pos listed
  simp only [startingToken, quoted, word, size]
  rfl

theorem starts_then (apart : rest.head?.any CharClass.isBareWord = false) :
    Starts ['t', 'h', 'e', 'n'] .then_ rest := by
  have plain : ['t', 'h', 'e', 'n'].flatMap Unicode.lowercase = ['t', 'h', 'e', 'n'] := by decide +kernel
  apply starts_word (by decide +kernel) (by decide +kernel) apart
  intro source span name
  rw [Lexer.word, String.toList_ofList, plain]
  rfl

theorem starts_or (apart : rest.head?.any CharClass.isBareWord = false) : Starts ['o', 'r'] .or_ rest := by
  have plain : ['o', 'r'].flatMap Unicode.lowercase = ['o', 'r'] := by decide +kernel
  apply starts_word (by decide +kernel) (by decide +kernel) apart
  intro source span name
  rw [Lexer.word, String.toList_ofList, plain]
  rfl

theorem digit_plain {c : Char} (digit : c.isDigit = true) :
    CharClass.isBareWord c = true ∧ Unicode.lowercase c = [c] := by
  have checked : ∀ value : Fin 10, let c := Char.ofNat (48 + value)
      CharClass.isBareWord c = true ∧ Unicode.lowercase c = [c] := by
    decide +kernel
  have bounds : 48 ≤ c.toNat ∧ c.toNat ≤ 57 := Char.isDigit_iff_toNat.mp digit
  obtain ⟨least, most⟩ := bounds
  have holds := checked ⟨c.toNat - 48, by omega⟩
  rwa [Nat.add_sub_cancel' least, Char.ofNat_toNat] at holds

theorem starts_times {count : Nat} (counted : count < UInt64.size)
    (apart : rest.head?.any CharClass.isBareWord = false) :
    Starts ('x' :: Nat.toDigits 10 count) (.times count) rest := by
  have digits : ∀ c ∈ Nat.toDigits 10 count, c.isDigit = true :=
    fun c => Nat.isDigit_of_mem_toDigits (by decide) (by decide)
  have value : Lexer.decimal (Nat.toDigits 10 count) = count :=
    Nat.ofDigitChars_eq_foldl.symm.trans Nat.ofDigitChars_ten_toDigits
  have all : (Nat.toDigits 10 count).all Char.isDigit = true := List.all_eq_true.mpr digits
  have letter : CharClass.isBareWord 'x' = true ∧ Unicode.lowercase 'x' = ['x'] := by decide +kernel
  have word : ('x' :: Nat.toDigits 10 count).all CharClass.isBareWord = true := by
    rw [List.all_eq_true]
    exact List.forall_mem_cons.mpr ⟨letter.1, fun c member => (digit_plain (digits c member)).1⟩
  apply starts_word (by decide +kernel) word apart
  · intro source span name
    have plain : ∀ c ∈ 'x' :: Nat.toDigits 10 count, Unicode.lowercase c = [c] :=
      List.forall_mem_cons.mpr ⟨letter.2, fun c member => (digit_plain (digits c member)).2⟩
    have some : (!(Nat.toDigits 10 count).isEmpty && (Nat.toDigits 10 count).all Char.isDigit) = true := by
      simp [Nat.toDigits_ne_nil, all]
    rw [Lexer.word, String.toList_ofList, List.flatMap_congr plain, List.flatMap_singleton']
    apply (if_pos some).trans
    rw [value, if_pos counted]

end Words

end Peg.Proofs
