import GoSurvey.Node

/-!
# File trees

A file system as a value: files, directories and symbolic links below a root.

* `FileTree` — a root whose names make sense, and the directory that relative paths start from;
* `FileTree.insert` — putting a file, a link or a directory into a file system;
* `FileTree.resolve?` — where a path leads when links are followed;
* `FileTree.isDir`, `FileTree.isFile`, `FileTree.entryNames`, `FileTree.read?` — what is found
  there.

A location may lead through links, and so differ from the location that it resolves to.
-/

namespace GoSurvey

/-- A file system and the directory that relative paths start from. In a directory no name stands
twice, and every name is a piece of a path. -/
structure FileTree where
  root : Node
  home : Location
  namesDiffer : root.namesDiffer = true := by decide
  namesArePieces : root.namesArePieces = true := by decide

/-! ## Following a path -/

/-- One piece of a path on the way to a file. -/
inductive Step where
  /-- Stay in the directory. -/
  | here
  /-- Go to the directory above. -/
  | up
  /-- Go to an entry. -/
  | enter (name : Name)
deriving DecidableEq

namespace Step

def ofPiece (piece : Name) : Step :=
  if Path.isIdle piece then here else if piece = Path.parent then up else enter piece

def ofPath (path : List UInt8) : List Step :=
  (Text.splitOn Path.slash path).map ofPiece

end Step

def Path.isAbsolute (path : List UInt8) : Bool :=
  path.head? == some Path.slash

namespace FileTree

open Text

def insert (t : FileTree) (loc : Location) (new : Node) (hloc : ∀ name ∈ loc, Path.isPiece name = true)
    (hdiffer : new.namesDiffer = true) (hpieces : new.namesArePieces = true) : FileTree where
  root := t.root.insert loc new
  home := t.home
  namesDiffer := Node.namesDiffer_insert t.namesDiffer hdiffer loc
  namesArePieces := Node.namesArePieces_insert t.namesArePieces hpieces hloc

def maxLinks : Nat := 40

/-- Follows steps from a location, and leaves it to `onLink` to go on at a link. -/
def walk (root : Node) (onLink : Location → List Step → Option Location) :
    Location → List Step → Option Location
  | loc, [] => some loc
  | loc, step :: rest =>
      match root.at? loc with
      | some (.dir entries) =>
          match step with
          | .here => walk root onLink loc rest
          | .up => walk root onLink loc.dropLast rest
          | .enter name =>
              match entries.lookup name with
              | none => none
              | some (.link target) =>
                  if target.isEmpty then none
                  else
                    -- A relative target starts from the directory that the link is in.
                    onLink (if Path.isAbsolute target then [] else loc) (Step.ofPath target ++ rest)
              | some _ => walk root onLink (loc ++ [name]) rest
      | _ => none

def follow (root : Node) : Nat → Location → List Step → Option Location
  | 0 => walk root fun _ _ => none
  | links + 1 => walk root (follow root links)

def resolve? (t : FileTree) (loc : Location) : Option Location :=
  follow t.root maxLinks [] (loc.map .enter)

def resolvePath? (t : FileTree) (path : List UInt8) : Option Location :=
  if path.isEmpty then none
  else follow t.root maxLinks (if Path.isAbsolute path then [] else t.home) (Step.ofPath path)

def node? (t : FileTree) (loc : Location) : Option Node :=
  (t.resolve? loc).bind t.root.at?

/-! ## Files and directories -/

def isDir (t : FileTree) (loc : Location) : Bool :=
  match t.node? loc with
  | some (.dir _) => true
  | _ => false

def isFile (t : FileTree) (loc : Location) : Bool :=
  match t.node? loc with
  | some (.file _) => true
  | _ => false

def entryNames (t : FileTree) (loc : Location) : List Name :=
  match t.node? loc with
  | some (.dir entries) => Name.sorted (entries.map (·.1))
  | _ => []

def bytes? (t : FileTree) (loc : Location) : Option ByteArray :=
  match t.node? loc with
  | some (.file content) => some content
  | _ => none

def read? (t : FileTree) (loc : Location) : Option String :=
  (t.bytes? loc).bind String.fromUTF8?

/-- A location as an absolute path; bytes that encode nothing are replaced. -/
def display (loc : Location) : String :=
  String.ofList (lossy (Path.slash :: joinWith Path.slash loc))

/-- A location that lies in a directory, as a path from there; bytes that encode nothing are
replaced. -/
def displayRelative (names : List Name) : String :=
  String.ofList (lossy (joinWith Path.slash names))

end FileTree
end GoSurvey
