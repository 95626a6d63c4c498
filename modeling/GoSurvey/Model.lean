import GoSurvey.Annotation
import GoSurvey.Tag

/-!
# The declaration model

What a survey reports: for each package its files, and for each file its documented structs and
interfaces, its functions, and the items that could not be resolved.
-/

namespace GoSurvey
namespace Model

/-- A place in a source file. Lines count from one; columns and offsets count bytes from zero. -/
structure Position where
  line : UInt32
  column : UInt32
  offset : UInt32
deriving DecidableEq

/-- A field of a struct. The type is empty where it could not be resolved. -/
structure Field where
  structName : String
  name : String
  typeName : String
  pointer : Bool
  tags : List Tag
deriving DecidableEq

/-- A parameter, with an empty name where the source has none. -/
structure Param where
  funcName : String
  name : String
  typeName : String
  pointer : Bool
deriving DecidableEq

structure Result where
  funcName : String
  name : Option String
  typeName : String
  pointer : Bool
deriving DecidableEq

structure Method where
  pkg : String
  owner : String
  name : String
  comments : List String
  params : List Param
  results : List Result
deriving DecidableEq

/-- A documented struct with the methods that are declared on it. -/
structure Struct where
  pkg : String
  packageName : String
  name : String
  position : Position
  comments : List String
  fields : List Field
  methods : List Method
  annotations : List Annotation
deriving DecidableEq

structure Interface where
  pkg : String
  name : String
  position : Position
  comments : List String
  methods : List Method
deriving DecidableEq

structure Func where
  pkg : String
  name : String
  position : Position
  comments : List String
  params : List Param
  results : List Result
deriving DecidableEq

/-- A part of a declaration that could not be resolved, and why. -/
structure Diagnostic where
  owner : String
  item : String
  position : Position
  error : String
deriving DecidableEq

structure File where
  pkg : String
  packageName : String
  filePath : String
  structs : List Struct
  interfaces : List Interface
  funcs : List Func
  diagnostics : List Diagnostic
deriving DecidableEq

/-- The model of one package: its files that have structs. -/
structure Package where
  id : String
  name : String
  pkgPath : String
  files : List File
deriving DecidableEq

/-! ## Look-up -/

def Struct.method? (s : Struct) (name : String) : Option Method :=
  s.methods.find? (·.name == name)

def Struct.annotation? (s : Struct) (name : String) : Option Annotation :=
  s.annotations.find? (·.name == name)

def File.struct? (f : File) (name : String) : Option Struct :=
  f.structs.find? (·.name == name)

def Package.structs (p : Package) : List Struct :=
  p.files.flatMap (·.structs)

end Model
end GoSurvey
