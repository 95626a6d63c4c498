import GoSurvey.Glob

/-!
# Exclusion

* `ExcludeSet` — the patterns of paths to leave out;
* `isIgnoredDirName` — the directories that are never entered.
-/

namespace GoSurvey

/-- The patterns of paths to leave out. -/
structure ExcludeSet where
  patterns : List Glob
deriving DecidableEq

structure ExcludeError where
  pattern : String
  cause : GlobError
deriving DecidableEq

def ExcludeError.message (e : ExcludeError) : String :=
  "Invalid exclude pattern '" ++ e.pattern ++ "': " ++ e.cause.message

namespace ExcludeSet

/-- The patterns that a list of texts spells; the first bad one is reported. -/
def parse (patterns : List String) : Except ExcludeError ExcludeSet :=
  (patterns.mapM fun p => (Glob.parse p).mapError (ExcludeError.mk p)).map ExcludeSet.mk

def excludes (set : ExcludeSet) (path : String) : Bool :=
  set.patterns.any (·.accepts path)

def unixStyle (path : String) : String :=
  String.ofList (path.toList.map fun c => if c = '\\' then '/' else c)

def excludesPath (set : ExcludeSet) (path : String) : Bool :=
  set.excludes (unixStyle path)

end ExcludeSet

/-- The names of directories that hold no packages: test data, vendored packages, and names that
start with a point or a low line. -/
def isIgnoredDirName (name : String) : Bool :=
  name == "testdata" || name == "vendor" || name.toList.head? == some '.'
    || name.toList.head? == some '_'

end GoSurvey
