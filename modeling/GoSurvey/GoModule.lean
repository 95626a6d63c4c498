import GoSurvey.Text.Cut

/-!
# Module files

* `GoModule.path?` — the module path that the text of a `go.mod` file declares.
-/

namespace GoSurvey
namespace GoModule

open Text

def dropComment : List Char → List Char
  | [] => []
  | '/' :: '/' :: _ => []
  | c :: s => c :: dropComment s

def dropQuotes (s : List Char) : List Char :=
  dropEndWhile (· == '"') (s.dropWhile (· == '"'))

/-- The module path that a line declares: what stands between the word `module`, set off by a
blank, and a comment. -/
def readLine? (line : List Char) : Option (List Char) :=
  match dropPrefix? "module".toList (trim line) with
  | none => none
  | some rest =>
      if (rest.head?.map isBlank).getD false then
        let path := dropQuotes (trim (dropComment rest))
        if path.isEmpty then none else some path
      else none

def path? (text : String) : Option String :=
  ((lines text.toList).findSome? readLine?).map String.ofList

end GoModule
end GoSurvey
