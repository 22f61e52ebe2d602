import Peg.Unicode.Alphabetic
import Peg.Unicode.Numeric
import Peg.Unicode.WhiteSpace

/-! Named character classes. Words and digits are the ASCII ones of traditional pattern languages;
spaces and letters follow the Unicode properties. -/

namespace Peg

inductive CharClass where
  | any
  | word
  | notWord
  | digit
  | notDigit
  | space
  | notSpace
  | letter
  | notLetter
deriving Repr, DecidableEq

namespace CharClass

/-- Every class, in the order in which they are listed for a character. -/
def all : List CharClass :=
  [.any, .word, .notWord, .digit, .notDigit, .space, .notSpace, .letter, .notLetter]

def isWord (c : Char) : Bool := c.isAlphanum || c == '_'

def isBareWord (c : Char) : Bool :=
  Unicode.isAlphabetic c || Unicode.isNumeric c || c == '_'

def contains (charClass : CharClass) (c : Char) : Bool :=
  match charClass with
  | .any => true
  | .word => isWord c
  | .notWord => !isWord c
  | .digit => c.isDigit
  | .notDigit => !c.isDigit
  | .space => Unicode.isWhiteSpace c
  | .notSpace => !Unicode.isWhiteSpace c
  | .letter => Unicode.isAlphabetic c
  | .notLetter => !Unicode.isAlphabetic c

def name : CharClass → String
  | .any => "any"
  | .word => "word"
  | .notWord => "not_word"
  | .digit => "digit"
  | .notDigit => "not_digit"
  | .space => "space"
  | .notSpace => "not_space"
  | .letter => "letter"
  | .notLetter => "not_letter"

/-- The class with a given name. -/
def ofName? (text : String) : Option CharClass := all.find? (·.name == text)

def title (charClass : CharClass) : String := "char_" ++ charClass.name

def allOf (c : Char) : List CharClass := all.filter (·.contains c)

end CharClass
end Peg
