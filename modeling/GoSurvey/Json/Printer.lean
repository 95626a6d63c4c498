import GoSurvey.Json

/-!
# Writing JSON

The indented form: two spaces for each level, one member or element on a line, and nothing between
the brackets of an empty array or object.

* `Json.quoteChar` — a character inside a string;
* `Json.pretty` — the text of a document.
-/

namespace GoSurvey
namespace Json

/-! ## Strings -/

def hexDigit (n : Nat) : Char :=
  Nat.digitChar n

/-- A character inside a string. Quote, backslash and five controls have short escapes, and the
other controls an escape by their code point; all else stands for itself. -/
def quoteChar (c : Char) : List Char :=
  match c with
  | '"' => ['\\', '"']
  | '\\' => ['\\', '\\']
  | '\x08' => ['\\', 'b']
  | '\t' => ['\\', 't']
  | '\n' => ['\\', 'n']
  | '\x0c' => ['\\', 'f']
  | '\r' => ['\\', 'r']
  | _ =>
      if c < ' ' then
        ['\\', 'u', '0', '0', hexDigit (c.toNat / 16), hexDigit (c.toNat % 16)]
      else [c]

/-- A string in quotes; one that is no text is written as half of a surrogate pair. -/
def quote : Option String → List Char
  | some s => '"' :: s.toList.flatMap quoteChar ++ ['"']
  | none => ['"', '\\', 'u', 'd', '8', '0', '0', '"']

/-! ## Documents -/

def newline (depth : Nat) : List Char :=
  '\n' :: List.replicate (2 * depth) ' '

mutual

def write (depth : Nat) : Json → List Char
  | null => ['n', 'u', 'l', 'l']
  | bool true => ['t', 'r', 'u', 'e']
  | bool false => ['f', 'a', 'l', 's', 'e']
  | nat n => Nat.toDigits 10 n
  | number literal => literal.toList
  | str s => quote s
  | arr [] => ['[', ']']
  | arr (v :: rest) =>
      '[' :: newline (depth + 1) ++ write (depth + 1) v ++ writeItems (depth + 1) rest
        ++ newline depth ++ [']']
  | obj [] => ['\x7b', '\x7d']
  | obj ((key, v) :: rest) =>
      '\x7b' :: newline (depth + 1) ++ quote key ++ [':', ' '] ++ write (depth + 1) v
        ++ writeMembers (depth + 1) rest ++ newline depth ++ ['\x7d']

def writeItems (depth : Nat) : List Json → List Char
  | [] => []
  | v :: rest => ',' :: newline depth ++ write depth v ++ writeItems depth rest

def writeMembers (depth : Nat) : List (Option String × Json) → List Char
  | [] => []
  | (key, v) :: rest =>
      ',' :: newline depth ++ quote key ++ [':', ' '] ++ write depth v
        ++ writeMembers depth rest

end

def pretty (v : Json) : String :=
  String.ofList (write 0 v)

end Json
end GoSurvey
