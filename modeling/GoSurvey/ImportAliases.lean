import GoSurvey.Text.Cut
import GoSurvey.Text.Quoted

/-!
# Import aliases

A registry that gives every import path a name of its own for use in generated source.

* `ImportAliases.resolve` — the name of a path, chosen at the first request;
* `ImportAliases.aliasFor?`, `ImportAliases.pathFor?` — the two directions of the registry;
* `ImportAliases.importSpecs` — the import lines for every registered path.

A new name is the first usable and free one of a fixed sequence (`candidate`): the last segment
of the path, the last two, and so on, then the whole path with one more `x` each time. Among the
names with an `x` at the end only those already given away can be refused, so looking at one more
name than there are bindings is enough.
-/

namespace GoSurvey

/-- A path and the name it has been given. -/
structure ImportBinding where
  path : String
  name : String
deriving DecidableEq

/-- The registered paths, the oldest first. -/
structure ImportAliases where
  bindings : List ImportBinding
deriving DecidableEq

namespace ImportAliases

open Text

/-! ## Names -/

def listedIdentifierChars : RangeTable :=
  [(0xB7, 0xB7), (0x387, 0x387), (0x1369, 0x1371), (0x1885, 0x1886), (0x19DA, 0x19DA),
   (0x2118, 0x2118), (0x212E, 0x212E), (0x309B, 0x309C)]

/-- A letter of a Go identifier: the low line or a letter of any script. -/
def isGoLetter (c : Char) : Bool :=
  c == '_' || (isXidStart c && !isNumeric c && !listedIdentifierChars.contains c)

def isGoDigit (c : Char) : Bool :=
  isXidContinue c && !isXidStart c && isNumeric c && !listedIdentifierChars.contains c

def keywords : List String :=
  ["break", "case", "chan", "const", "continue", "default", "defer", "else", "fallthrough", "for",
   "func", "go", "goto", "if", "import", "interface", "map", "package", "range", "return",
   "select", "struct", "switch", "type", "var"]

def isGoIdentifier : List Char → Bool
  | [] => false
  | c :: s => isGoLetter c && s.all fun d => isGoLetter d || isGoDigit d

/-- Whether a text can name an import: an identifier that is neither blank nor a keyword. -/
def isUsable (name : List Char) : Bool :=
  isGoIdentifier name && name != ['_'] && !keywords.contains (String.ofList name)

/-- A path segment made into identifier text: without leading digits, and with a low line for
every character that cannot stand in an identifier. -/
def sanitize (segment : List Char) : List Char :=
  (segment.dropWhile isGoDigit).map fun c => if isGoLetter c || isGoDigit c then c else '_'

/-! ## Paths -/

def afterLast? (p : List Char) : List Char → Option (List Char)
  | [] => dropPrefix? p []
  | c :: s => (afterLast? p s).or (dropPrefix? p (c :: s))

/-- The path without the vendoring directory it stands in: what follows the last `/vendor/`. -/
def stripVendor (path : String) : String :=
  match afterLast? "/vendor/".toList path.toList with
  | some rest => String.ofList rest
  | none => path

def segments (path : String) : List (List Char) :=
  (splitOn '/' path.toList).filter (!·.isEmpty)

/-- The sequence of names for a path with the given segments: the sanitized last segment, the last
two, …, all of them, then all of them with one more `x` each time. -/
def candidate (segs : List (List Char)) (i : Nat) : List Char :=
  (segs.drop (segs.length - (i + 1))).flatMap sanitize
    ++ List.replicate (i + 1 - segs.length) 'x'

/-! ## The registry -/

def empty : ImportAliases := ⟨[]⟩

def pathFor? (t : ImportAliases) (name : String) : Option String :=
  (t.bindings.find? (·.name == name)).map (·.path)

def nameOf? (t : ImportAliases) (stripped : String) : Option String :=
  (t.bindings.find? (·.path == stripped)).map (·.name)

def aliasFor? (t : ImportAliases) (path : String) : Option String :=
  t.nameOf? (stripVendor path)

def size (t : ImportAliases) : Nat :=
  t.bindings.length

def isEmpty (t : ImportAliases) : Bool :=
  t.bindings.isEmpty

def isFree (t : ImportAliases) (name : List Char) : Bool :=
  isUsable name && (t.pathFor? (String.ofList name)).isNone

/-- How many names of the sequence are looked at: one for each segment, one for each binding and
one more. -/
def searchBound (t : ImportAliases) (segs : List (List Char)) : Nat :=
  segs.length + t.bindings.length + 1

def firstFree (t : ImportAliases) (segs : List (List Char)) : List Char :=
  (((List.range (t.searchBound segs)).map (candidate segs)).find? t.isFree).getD []

/-- The name of a path, and the registry in which it has it. A path keeps the name that it was
first given. -/
def resolve (t : ImportAliases) (path : String) : String × ImportAliases :=
  let stripped := stripVendor path
  match t.nameOf? stripped with
  | some name => (name, t)
  | none =>
      let name := String.ofList (t.firstFree (segments stripped))
      (name, ⟨t.bindings ++ [⟨stripped, name⟩]⟩)

/-! ## Import lines -/

/-- A major-version segment such as `v2`, which never is a package's name. -/
def isMajorVersion : List Char → Bool
  | 'v' :: digits => !digits.isEmpty && digits.all isDigit
  | _ => false

def lastSegment (path : List Char) : List Char :=
  (afterLast? ['/'] path).getD path

/-- The import line of a binding. The name is left out where it is what the path itself says. -/
def importSpec (b : ImportBinding) : String :=
  let own := lastSegment b.path.toList
  let path := String.ofList (quote b.path.toList)
  if own = b.name.toList ∧ !isMajorVersion own then path else b.name ++ " " ++ path

/-- Whether the path of the first binding comes before that of the second, or is the same: the first
character that differs decides, and a path comes before those that it starts. -/
def pathLe (a b : ImportBinding) : Bool :=
  !b.path.toList.lex a.path.toList fun c d => decide (c.val < d.val)

def importSpecs (t : ImportAliases) : List String :=
  (t.bindings.mergeSort pathLe).map importSpec

end ImportAliases
end GoSurvey
