import GoSurvey.Text.Cut

/-!
# Annotations

A line of a doc comment that starts with `@Name` or `@Name(value)` annotates the struct below it.

* `Annotation.bodies` — the lines of a comment without their leaders;
* `Annotation.enclosed` — the text up to the parenthesis that closes an open one;
* `Annotation.readLine` — the name and the value on a line;
* `Annotation.decodeAll` — every annotation of a doc comment, in source order.
-/

namespace GoSurvey

/-- An annotation of a struct, with the comment that it was read from. -/
structure Annotation where
  pkg : String
  structName : String
  name : String
  value : Option String
  raw : String
deriving DecidableEq

namespace Annotation

open Text

/-! ## Comment lines -/

/-- A line of a block comment without its indentation, one star and one space. -/
def blockLine (line : List Char) : List Char :=
  dropOne ' ' (dropOne '*' (trimStart line))

/-- The lines of a comment without their leaders. A line comment is one line and loses one space;
a block comment loses its delimiters and the leader of each line. -/
def bodies (comment : List Char) : List (List Char) :=
  match dropPrefix? ['/', '/'] comment with
  | some rest => [dropOne ' ' rest]
  | none =>
      match dropPrefix? ['/', '*'] comment with
      | some rest => (lines ((dropSuffix? ['*', '/'] rest).getD rest)).map blockLine
      | none => []

/-! ## Values -/

/-- How a character of a value is to be read. -/
inductive Mode where
  /-- Outside string literals, where parentheses count. -/
  | plain
  /-- Between double quotes. -/
  | quoted
  /-- Between double quotes, after a backslash. -/
  | escaped
  /-- Between backquotes. -/
  | raw
deriving DecidableEq

def Mode.next (mode : Mode) (c : Char) : Mode :=
  match mode with
  | .plain => if c = '"' then .quoted else if c = '\x60' then .raw else .plain
  | .quoted => if c = '\\' then .escaped else if c = '"' then .plain else .quoted
  | .escaped => .quoted
  | .raw => if c = '\x60' then .plain else .raw

/-- The text up to the closing parenthesis that matches one opened before it; `depth` more are
open inside. Parentheses in string literals do not count. -/
def enclosed (depth : Nat) (mode : Mode) : List Char → Option (List Char)
  | [] => none
  | c :: s =>
      if mode = .plain ∧ c = ')' then
        match depth with
        | 0 => some []
        | depth + 1 => (enclosed depth mode s).map (c :: ·)
      else if mode = .plain ∧ c = '(' then (enclosed (depth + 1) mode s).map (c :: ·)
      else (enclosed depth (mode.next c) s).map (c :: ·)

/-- The value that follows the name: what the first parenthesis encloses, if it is closed. -/
def readValue (s : List Char) : Option (List Char) :=
  match s.dropWhile (· ≠ '(') with
  | [] => none
  | _ :: rest => enclosed 0 .plain rest

/-- The name and the value of an annotation line. The name runs to the first parenthesis and may
not be blank. -/
def readLine : List Char → Option (List Char × Option (List Char))
  | '@' :: s =>
      let name := trim (s.takeWhile (· ≠ '('))
      if name.isEmpty then none else some (name, readValue s)
  | _ => none

/-! ## Doc comments -/

/-- The annotations of a struct in the order of their lines, repeated ones included. -/
def decodeAll (pkg structName : String) (comments : List String) : List Annotation :=
  comments.flatMap fun comment =>
    ((bodies comment.toList).filterMap readLine).map fun (name, value) =>
      { pkg, structName, name := String.ofList name, value := value.map String.ofList, raw := comment }

end Annotation
end GoSurvey
