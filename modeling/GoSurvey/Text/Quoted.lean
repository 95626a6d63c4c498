import GoSurvey.Text.CharClass

/-!
# Quoted text

A text between double quotes in which every character can be seen: a quote, a backslash and four
controls have short escapes, and a character that has no form of its own is written by its code
point.
-/

namespace GoSurvey
namespace Text

def codePointEscape (c : Char) : List Char :=
  '\\' :: 'u' :: '\x7b' :: Nat.toDigits 16 c.toNat ++ ['\x7d']

def quoteChar (c : Char) : List Char :=
  match c with
  | '"' => ['\\', '"']
  | '\\' => ['\\', '\\']
  | '\x00' => ['\\', '0']
  | '\t' => ['\\', 't']
  | '\n' => ['\\', 'n']
  | '\r' => ['\\', 'r']
  | _ => if isGraphemeExtend c || !isVisible c then codePointEscape c else [c]

def quote (s : List Char) : List Char :=
  '"' :: s.flatMap quoteChar ++ ['"']

end Text
end GoSurvey
