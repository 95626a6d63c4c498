import GoSurvey.Text.Cut

/-!
# Path patterns

A pattern matches a whole path. `?` stands for one character, `*` for any characters, `[…]` for one
character of a class and `[!…]` for one outside it, all of them slashes included; `**` is a whole
path component and stands for any number of them: what it takes reaches to a slash or to the end of
the path.

* `Glob.parse` — the pattern that a text spells, or where it goes wrong;
* `Glob.accepts` — whether a path matches.

A match is decided by following all the ways at once: from the ends of the path that are still to
be matched before a token, the ends that are left after it.
-/

namespace GoSurvey

/-- A single character or a range of a class. -/
inductive GlobSpecifier where
  | single (c : Char)
  | range (first last : Char)
deriving DecidableEq

inductive GlobToken where
  | char (c : Char)
  | anyChar
  | anySequence
  | anyComponents
  | within (specifiers : List GlobSpecifier)
  | outside (specifiers : List GlobSpecifier)
deriving DecidableEq

structure Glob where
  tokens : List GlobToken
deriving DecidableEq

inductive GlobFault where
  | manyStars
  | partialComponent
  | unclosedClass
deriving DecidableEq

/-- A refused pattern: the number of characters before the fault, and the fault. -/
structure GlobError where
  position : Nat
  fault : GlobFault
deriving DecidableEq

def GlobFault.reason : GlobFault → String
  | manyStars => "wildcards are either regular `*` or recursive `**`"
  | partialComponent => "recursive wildcards must form a single path component"
  | unclosedClass => "invalid range pattern"

def GlobError.message (e : GlobError) : String :=
  "Pattern syntax error near position " ++ e.position.repr ++ ": " ++ e.fault.reason

namespace GlobSpecifier

/-- The specifiers of a class: a minus between two characters makes a range of them. -/
def readAll : List Char → List GlobSpecifier
  | [] => []
  | a :: '-' :: b :: s => range a b :: readAll s
  | a :: s => single a :: readAll s

def admits (c : Char) : GlobSpecifier → Bool
  | single d => c == d
  | range first last => first ≤ c && c ≤ last

end GlobSpecifier

namespace Glob

open Text

/-! ## Parsing -/

/-- The class after an opening bracket, and how many characters it takes, the closing bracket
included. Its first character is never the closing bracket. -/
def readClass? : List Char → Option (GlobToken × Nat)
  | '!' :: c :: s =>
      (cut? ']' s).map fun (body, _) => (.outside (GlobSpecifier.readAll (c :: body)), body.length + 3)
  | '!' :: [] => none
  | c :: s =>
      (cut? ']' s).map fun (body, _) => (.within (GlobSpecifier.readAll (c :: body)), body.length + 2)
  | [] => none

/-- The token at a position of a pattern, and how many characters it takes after its first;
`previous` is the character before it. -/
def readToken (position : Nat) (previous : Option Char) (c : Char) (s : List Char) :
    Except GlobError (GlobToken × Nat) :=
  match c with
  | '?' => .ok (.anyChar, 0)
  | '*' =>
      match s with
      | '*' :: '*' :: _ => .error ⟨position + 2, .manyStars⟩
      | '*' :: rest =>
          -- Two stars are a whole component: a slash or nothing stands on either side of them.
          if previous.isSome && previous != some '/' then .error ⟨position - 1, .partialComponent⟩
          else
            match rest with
            | [] => .ok (.anyComponents, 1)
            | '/' :: _ => .ok (.anyComponents, 2)
            | _ => .error ⟨position + 2, .partialComponent⟩
      | _ => .ok (.anySequence, 0)
  | '[' =>
      match readClass? s with
      | some (token, n) => .ok (token, n)
      | none => .error ⟨position, .unclosedClass⟩
  | _ => .ok (.char c, 0)

def readTokens (position : Nat) (previous : Option Char) :
    List Char → Except GlobError (List GlobToken)
  | [] => .ok []
  | c :: s =>
      match readToken position previous c s with
      | .error e => .error e
      | .ok (token, n) =>
          -- Of what the token takes the next one sees the last character.
          let last := (s.take n).getLast?.getD c
          (readTokens (position + n + 1) (some last) (s.drop n)).map (token :: ·)
termination_by s => s.length
decreasing_by
  simp only [List.length_cons, List.length_drop]
  omega

def parse (s : String) : Except GlobError Glob :=
  (readTokens 0 none s.toList).map Glob.mk

/-! ## Matching -/

def ends : List Char → List (List Char)
  | [] => [[]]
  | c :: s => (c :: s) :: ends s

def endsAfterSlash : List Char → List (List Char)
  | [] => []
  | c :: s => if c = '/' then s :: endsAfterSlash s else endsAfterSlash s

def consume (p : Char → Bool) (left : List (List Char)) : List (List Char) :=
  left.filterMap fun
    | [] => none
    | c :: s => if p c then some s else none

/-- The ends of a path that are left after a token, the longest first, given those that are left
before it. -/
def advance (left : List (List Char)) : GlobToken → List (List Char)
  | .char c => consume (· == c) left
  | .anyChar => consume (fun _ => true) left
  | .within specifiers => consume (fun c => specifiers.any (·.admits c)) left
  | .outside specifiers => consume (fun c => !specifiers.any (·.admits c)) left
  | .anySequence =>
      match left with
      | [] => []
      | longest :: _ => ends longest
  | .anyComponents =>
      match left with
      | [] => []
      -- The components that are passed over may be none, some or all that are left.
      | longest :: _ => (left ++ endsAfterSlash longest ++ [[]]).eraseDups

def accepts (g : Glob) (path : String) : Bool :=
  (g.tokens.foldl advance [path.toList]).contains []

end Glob
end GoSurvey
