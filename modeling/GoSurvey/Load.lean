import GoSurvey.Config
import GoSurvey.Exclude
import GoSurvey.FileTree
import GoSurvey.GoModule
import GoSurvey.Source.Declaration
import GoSurvey.Text.Quoted

/-!
# Loading packages

A pattern names a directory, or with three dots at its end a directory and all below it. Each
directory with Go sources is a package, whose import path comes from the module it lies in.

* `Pattern.ofText` — the directory that a pattern names, and whether it includes what is below;
* `Load.candidates` — the directories that may hold packages;
* `Load.package` — the package in a directory;
* `Load.roots` — the packages of a list of patterns.
-/

namespace GoSurvey

/-! ## Packages and errors -/

/-- A source file: its path in its module, its text, and what was read from it. -/
structure LoadedFile where
  path : String
  content : String
  outline : Source.File
deriving DecidableEq

def LoadedFile.describe (f : LoadedFile) : String :=
  "SourceFile \x7b path: " ++ String.ofList (Text.quote f.path.toList) ++ ", bytes: "
    ++ f.content.utf8ByteSize.repr ++ " \x7d"

/-- A package: a directory and its sources in the order of their names. -/
structure LoadedPackage where
  id : String
  name : String
  importPath : String
  dir : Location
  files : List LoadedFile
deriving DecidableEq

inductive LoadError where
  | exclude (cause : ExcludeError)
  /-- A pattern names no directory. -/
  | notDirectory (pattern : String)
  /-- A module file declares no module. -/
  | noModule (goMod : Location)
  /-- A file is no text. -/
  | notText (file : Location)
  /-- A link leads out of the module. -/
  | outside (path root : Location)
  /-- A name is no text. -/
  | nameNotText
deriving DecidableEq

def LoadError.message : LoadError → String
  | exclude cause => cause.message
  | notDirectory pattern =>
      "Root path '" ++ pattern ++ "' does not exist or is not a directory"
  | noModule goMod => FileTree.display goMod ++ " has no module directive"
  | notText file =>
      "Failed to read " ++ FileTree.display file ++ ": stream did not contain valid UTF-8"
  | outside path root =>
      Path.outsideMessage (FileTree.display path) (FileTree.display root) ++ ": prefix not found"
  | nameNotText => "Path contains invalid UTF-8"

/-! ## Patterns -/

/-- A directory to look for packages in, and whether to look below it too. -/
structure Pattern where
  path : List UInt8
  recursive : Bool
deriving DecidableEq

/-- The pattern that a text spells. Three dots at its end ask for what is below; slashes and
backslashes before them do not count, and nothing before them means the current directory. -/
def Pattern.ofText (s : String) : Pattern :=
  match Text.dropSuffix? "...".toList s.toList with
  | none => ⟨Text.utf8 s, false⟩
  | some rest =>
      let dir := Text.dropEndWhile (fun c => c == '/' || c == '\\') rest
      ⟨if dir.isEmpty then Path.here else Text.utf8 (String.ofList dir), true⟩

def Pattern.defaults : List String :=
  ["./..."]

namespace Load

open Text

/-! ## Directories -/

def isExcluded (excludes : ExcludeSet) (root loc : Location) : Bool :=
  excludes.excludesPath (FileTree.displayRelative (loc.drop root.length))

def enters (t : FileTree) (excludes : ExcludeSet) (root dir : Location) (name : Name) : Bool :=
  t.isDir (dir ++ [name]) && !isIgnoredDirName ((ofUtf8? name).getD "")
    && !isExcluded excludes root (dir ++ [name])

/-- The directories below a directory, each before those below it, down to a depth. -/
def below (t : FileTree) (excludes : ExcludeSet) (root : Location) : Nat → Location → List Location
  | 0, _ => []
  | depth + 1, dir =>
      (t.entryNames dir).flatMap fun name =>
        if enters t excludes root dir name then
          (dir ++ [name]) :: below t excludes root depth (dir ++ [name])
        else []

/-- A depth that no way through the tree exceeds: between two links, and before the first and after
the last, it passes at most as many directories as contain one another. -/
def depthBound (t : FileTree) : Nat :=
  (FileTree.maxLinks + 1) * (t.root.height + 1)

def candidates (t : FileTree) (excludes : ExcludeSet) (recursive : Bool) (root : Location) :
    List Location :=
  root :: if recursive then below t excludes root (depthBound t) root else []

/-! ## Modules -/

/-- A location and those of the directories that contain it, the nearest first. -/
def ancestors (loc : Location) : List Location :=
  ((List.range (loc.length + 1)).map loc.take).reverse

def goModOf (dir : Location) : Location :=
  dir ++ [utf8 "go.mod"]

/-- The root of the module that a directory lies in, and the module's path. -/
def module? (t : FileTree) (dir : Location) : Except LoadError (Option (Location × String)) :=
  match (ancestors dir).find? fun a => t.isFile (goModOf a) with
  | none => .ok none
  | some root =>
      match t.read? (goModOf root) with
      | none => .error (.notText (goModOf root))
      | some text =>
          match GoModule.path? text with
          | none => .error (.noModule (goModOf root))
          | some path => .ok (some (root, path))

def lastName (loc : Location) : String :=
  (loc.getLast?.bind ofUtf8?).getD ""

/-- The root that import paths are counted from, and its import path: the module's, or else the
scanned root and its name. -/
def importRoot (t : FileTree) (root dir : Location) : Except LoadError (Location × String) := do
  let found ← module? t dir
  pure (found.getD (root, lastName root))

/-- A location as a path from a root, when links are followed on both sides. -/
def relative (t : FileTree) (loc root : Location) : Except LoadError String :=
  let path := (t.resolve? loc).getD loc
  let base := (t.resolve? root).getD root
  -- A link counts by where it leads, here as in the base.
  if base.isPrefixOf path then
    match ofUtf8? (joinWith Path.slash (path.drop base.length)) with
    | some text => .ok text
    | none => .error .nameNotText
  else .error (.outside path base)

/-! ## Packages -/

def sources (t : FileTree) (excludes : ExcludeSet) (includeTests : Bool) (root dir : Location) :
    List Location :=
  ((t.entryNames dir).filter fun name =>
      t.isFile (dir ++ [name]) && Path.isGoSourceName includeTests name
        && !isExcluded excludes root (dir ++ [name])).map (dir ++ [·])

def file (t : FileTree) (base source : Location) : Except LoadError LoadedFile :=
  match t.read? source with
  | none => .error (.notText source)
  | some content => do
      let path ← relative t source base
      pure ⟨path, content, Source.File.parse content⟩

/-- The package in a directory, if there are sources in it. It is named by the first package clause
among its sources, or else by the directory. -/
def package (t : FileTree) (excludes : ExcludeSet) (includeTests : Bool) (root dir : Location) :
    Except LoadError (Option LoadedPackage) :=
  let sources := sources t excludes includeTests root dir
  if sources.isEmpty then .ok none
  else do
    let (base, baseImport) ← importRoot t root dir
    let importPath := joinImportPath baseImport (← relative t dir base)
    let files ← sources.mapM (file t base)
    let name := (files.findSome? (·.outline.packageName?)).getD (lastName dir)
    pure (some { id := importPath, name, importPath, dir, files })

/-! ## Roots -/

def rootOf (t : FileTree) (text : String) : Except LoadError Location :=
  match t.resolvePath? (Pattern.ofText text).path with
  | none => .error (.notDirectory text)
  | some root => if t.isDir root then .ok root else .error (.notDirectory text)

/-- Loads the packages of directories; those visited before are passed over. -/
def packages (t : FileTree) (excludes : ExcludeSet) (includeTests : Bool) (root : Location)
    (visited : List Location) : List Location → Except LoadError (List LoadedPackage × List Location)
  | [] => .ok ([], visited)
  | dir :: rest =>
      if visited.contains dir then packages t excludes includeTests root visited rest
      else do
        let found ← package t excludes includeTests root dir
        -- Visited from here on, with or without a package.
        let (later, visited) ← packages t excludes includeTests root (dir :: visited) rest
        pure (found.toList ++ later, visited)

def patterns (t : FileTree) (excludes : ExcludeSet) (includeTests : Bool)
    (visited : List Location) : List String → Except LoadError (List LoadedPackage)
  | [] => .ok []
  | text :: rest => do
      let root ← rootOf t text
      let dirs := candidates t excludes (Pattern.ofText text).recursive root
      let (found, visited) ← packages t excludes includeTests root visited dirs
      let later ← patterns t excludes includeTests visited rest
      pure (found ++ later)

def roots (t : FileTree) (texts : List String) (config : Config) :
    Except LoadError (List LoadedPackage) :=
  match ExcludeSet.parse config.exclude with
  | .error e => .error (.exclude e)
  | .ok excludes =>
      patterns t excludes config.includeTests []
        (if texts.isEmpty then Pattern.defaults else texts)

end Load
end GoSurvey
