import Peg.Unicode.GraphemeExtend
import Peg.Unicode.Invisible

/-! A text written so that every character can be seen: common controls, quotes and backslashes
have a short escape, and characters that show only on their neighbour or leave no mark are written
with their code point. -/

namespace Peg.Text.Escaped

def codePoint (c : Char) : String :=
  "\\u\x7b" ++ String.ofList (Nat.toDigits 16 c.toNat) ++ "\x7d"

def character (c : Char) : String :=
  match c with
  | '\x00' => "\\0"
  | '\t' => "\\t"
  | '\r' => "\\r"
  | '\n' => "\\n"
  | '\\' => "\\\\"
  | '"' => "\\\""
  | _ =>
    if Unicode.isExtendingMark c || Unicode.isInvisible c then codePoint c
    else c.toString

/-- The text between quotes. -/
def encode (text : String) : String :=
  "\"" ++ String.join (text.toList.map character) ++ "\""

end Peg.Text.Escaped
