import GoSurvey.Text.Cut
import GoSurvey.Text.Utf8

/-!
# Paths

A path is a list of bytes, cut into pieces by slashes. An empty piece and a single point name
nothing and are passed over, save a point that the path starts with.

* `Path.fileName?`, `Path.extension?`, `Path.isGoSource` — what the last piece says;
* `Path.relativeTo?` — a path as seen from a directory above it;
* `joinImportPath` — the import path of a directory below a root.
-/

namespace GoSurvey

abbrev Name := List UInt8

namespace Name

/-- The names with another one, put before the first that is not smaller. -/
def insertSorted (name : Name) : List Name → List Name
  | [] => [name]
  | next :: rest =>
      if decide (name ≤ next) then name :: next :: rest else next :: insertSorted name rest

def sorted (names : List Name) : List Name :=
  names.foldr insertSorted []

end Name

namespace Path

open Text

def slash : UInt8 := 47

def dot : UInt8 := 46

def here : Name := [dot]

def parent : Name := [dot, dot]

def isIdle (piece : Name) : Bool :=
  piece.isEmpty || piece == here

def isPiece (name : Name) : Bool :=
  !name.isEmpty && !name.contains slash

/-! ## File names -/

/-- The last piece that names something, unless it is the directory above. -/
def fileName? (path : List UInt8) : Option Name :=
  ((splitOn slash path).filter (!isIdle ·)).getLast?.filter (· != parent)

def extension? (name : Name) : Option Name :=
  match (splitOn dot name).reverse with
  | [] | [_] => none
  | [_, []] => none
  | last :: _ => if name = parent then none else some last

/-- Whether a file of this name is a Go source. Test files count only if they are asked for. -/
def isGoSourceName (includeTests : Bool) (name : Name) : Bool :=
  extension? name == some (utf8 "go")
    && (includeTests
      || !((ofUtf8? name).isSome && (dropSuffix? (utf8 "_test.go") name).isSome))

def isGoSource (includeTests : Bool) (path : List UInt8) : Bool :=
  ((fileName? path).map (isGoSourceName includeTests)).getD false

/-! ## Relative paths -/

/-- What a path starts with: the root directory, a point for the current one, or a name. -/
inductive Lead where
  | root
  | current
  | none
deriving DecidableEq

def lead (path : List UInt8) : Lead × List UInt8 × List Name :=
  match path with
  | [] => (.none, [], [])
  | c :: rest =>
      if c = slash then (.root, [slash], splitOn slash rest)
      else if (splitOn slash path).head? = some here then (.current, here, splitOn slash rest)
      else (.none, [], splitOn slash path)

/-- The pieces left after the given names; idle pieces between them are passed over. -/
def dropNames? : List Name → List Name → Option (List Name)
  | [], pieces => some pieces
  | _ :: _, [] => none
  | name :: names, piece :: pieces =>
      if isIdle piece then dropNames? (name :: names) pieces
      else if piece = name then dropNames? names pieces
      else none

/-- The path as seen from a root, if it lies in it. The rest is written as it stands in the path,
without idle pieces at its ends. -/
def relativeTo? (path root : List UInt8) : Option (List UInt8) :=
  let (start, written, pieces) := lead path
  let (rootStart, _, rootPieces) := lead root
  let names := rootPieces.filter (!isIdle ·)
  if rootStart = .none ∧ names = [] then
    some (written ++ joinWith slash (dropEndWhile isIdle pieces))
  else if start = rootStart then
    (dropNames? names pieces).map fun rest =>
      joinWith slash (dropEndWhile isIdle (rest.dropWhile isIdle))
  else none

def outsideMessage (path root : String) : String :=
  "Path '" ++ path ++ "' is not within root '" ++ root ++ "'"

end Path

/-- The import path of a directory, from the import path of its root and the way to it from there.
-/
def joinImportPath (root relative : String) : String :=
  if relative.isEmpty then root
  else if root.isEmpty then relative
  else String.ofList (Text.dropEndWhile (· == '/') root.toList) ++ "/" ++ relative

end GoSurvey
