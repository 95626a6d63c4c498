import GoSurvey.Extract.Signature
import GoSurvey.Source.Declaration
import GoSurvey.Source.DocBlock
import GoSurvey.Tag.Literal

/-!
# The model of a file

* `Extract.types` — the documented structs and interfaces of a file;
* `Extract.callables` — its functions, and its methods attached to those structs;
* `Extract.model` — the model of a parsed file;
* `Extract.ofSource` — the model of a source text.

The structs are known before the first method is looked at, so that a method may stand before the
struct it belongs to. A file without any comment has an empty model.
-/

namespace GoSurvey
namespace Extract

open Model

/-- The package and the file that a model is made for. -/
structure Context where
  pkg : String
  packageName : String
  filePath : String
deriving DecidableEq

/-! ## Structs -/

def tags (subject : Subject) : Option Source.TagLiteral → Noted (List Tag)
  | none => pure []
  | some literal =>
      match Tag.ofLiteral literal.text with
      | .ok tag => pure [tag]
      | .error e => do
          report subject literal.start e.message
          pure []

/-- The name, the shape of the type, the type and the tag of a field declaration. It is named by its
first name; an embedded field is named by its type. -/
def fieldParts : Source.Field →
    String × TypeShape × Source.TypeExpr × Option Source.TagLiteral
  | .named first _ type tag => (first, .ofExpr type, type, tag)
  | .embedded star type tag =>
      let shape := if star then (TypeShape.ofExpr type).toPointer else .ofExpr type
      (shape.baseName?.getD type.text, shape, type, tag)

def field (structName : String) (f : Source.Field) : Noted Field := do
  let (name, shape, type, tag) := fieldParts f
  let subject : Subject := ⟨structName, name⟩
  let resolved ← resolve subject type.start shape
  let tags ← tags subject tag
  pure ⟨structName, name, resolved.typeName, resolved.pointer, tags⟩

def struct (ctx : Context) (name : String) (start : Source.Place) (comments : List String)
    (fields : List Source.Field) : Noted Struct := do
  let fields ← Noted.each (field name) fields
  pure
    { pkg := ctx.pkg, packageName := ctx.packageName, name, position := .ofPlace start, comments,
      fields, methods := [], annotations := [] }

/-! ## Methods and interfaces -/

def method (ctx : Context) (owner name : String) (comments : List String)
    (s : Source.Signature) : Noted Method := do
  let (params, results) ← signature owner name s
  pure { pkg := ctx.pkg, owner, name, comments, params, results }

/-- The methods among the elements of an interface, with their doc blocks. -/
def methodElements (elements : List (Source.Sibling Source.Element)) :
    List (String × Source.Signature × List String) :=
  (Source.Sibling.documented elements).filterMap fun
    | (.method name s, comments) => some (name, s, comments)
    | (.constraint, _) => none

def interface (ctx : Context) (name : String) (start : Source.Place) (comments : List String)
    (elements : List (Source.Sibling Source.Element)) : Noted Interface := do
  let methods ← Noted.each (fun (m, s, docs) => method ctx name m docs s) (methodElements elements)
  pure { pkg := ctx.pkg, name, position := .ofPlace start, comments, methods }

/-! ## Type declarations -/

inductive Found where
  | struct (s : Struct)
  | interface (i : Interface)
deriving DecidableEq

/-- The struct or interface that an entry declares, if it has a doc block. -/
def typeEntry (ctx : Context) (comments : List String) : Source.TypeDecl → Noted (Option Found)
  | .spec name body =>
      if comments.isEmpty then pure none
      else
        match body with
        | .struct start fields => do
            let s ← struct ctx name start comments fields
            pure (some (.struct s))
        | .interface start elements => do
            let i ← interface ctx name start comments elements
            pure (some (.interface i))
        | .other => pure none
  | .synonym _ => pure none

/-- The documented types of one declaration. Its own doc block stands for the doc blocks of all its
entries. -/
def typeEntries (ctx : Context) (docs : List String)
    (entries : List (Source.Sibling Source.TypeDecl)) : Noted (List Found) := do
  let found ← Noted.each
    (fun (entry, own) => typeEntry ctx (if docs.isEmpty then own else docs) entry)
    (Source.Sibling.documented entries)
  pure (found.filterMap id)

def types (ctx : Context) (decls : List (Source.Decl × List String)) : Noted (List Found) := do
  let found ← Noted.each
    (fun
      | (.types entries, docs) => typeEntries ctx docs entries
      | _ => pure [])
    decls
  pure found.flatten

def structs (found : List Found) : List Struct :=
  found.filterMap fun
    | .struct s => some s
    | .interface _ => none

def interfaces (found : List Found) : List Interface :=
  found.filterMap fun
    | .interface i => some i
    | .struct _ => none

/-! ## Functions and methods -/

/-- The type that a receiver names: the first item that is not variadic decides, and it has to be a
name of this package, behind a pointer or not. -/
def receiverName? (receiver : List Source.ParamItem) : Option String :=
  match receiver.find? (!·.variadic) with
  | none => none
  | some item =>
      -- The name of another package's type never is one of a struct here.
      match TypeShape.ofExpr item.type with
      | .ident name | .pointerIdent name => some name
      | _ => none

abbrev NameIndex := List (String × List Nat)

namespace NameIndex

def positions? (index : NameIndex) (name : String) : Option (List Nat) :=
  index.lookup name

def add (name : String) (position : Nat) : NameIndex → NameIndex
  | [] => [(name, [position])]
  | (other, known) :: rest =>
      if other = name then (other, known ++ [position]) :: rest
      else (other, known) :: add name position rest

end NameIndex

/-- The positions of the structs of each name, taken once before the first method is looked at. -/
def structIndex (structs : List Struct) : NameIndex :=
  structs.zipIdx.foldl (fun index (s, position) => index.add s.name position) []

/-- The name that a receiver has and the positions of the structs of this name, if there are any. -/
def targets? (index : NameIndex) (receiver : List Source.ParamItem) :
    Option (String × List Nat) := do
  let owner ← receiverName? receiver
  let targets ← index.positions? owner
  some (owner, targets)

def push (m : Method) (structs : List Struct) (position : Nat) : List Struct :=
  structs.modify position fun s => { s with methods := s.methods ++ [m] }

/-- Adds a method to the structs at all the positions, one after the other. -/
def attach (m : Method) (targets : List Nat) (structs : List Struct) : List Struct :=
  targets.foldl (push m) structs

def function (ctx : Context) (start : Source.Place) (name : String) (comments : List String)
    (s : Source.Signature) : Noted Func := do
  let (params, results) ← signature name name s
  pure { pkg := ctx.pkg, name, position := .ofPlace start, comments, params, results }

/-- Goes through functions and methods in source order. A method whose receiver names none of the
structs is passed over. The index stays the same while methods are added to the structs. -/
def callables (ctx : Context) (index : NameIndex) :
    List (Source.Decl × List String) → List Struct → Noted (List Struct × List Func)
  | [], structs => pure (structs, [])
  | (decl, comments) :: rest, structs =>
      match decl with
      | .function start name s => do
          let f ← function ctx start name comments s
          let (structs, funcs) ← callables ctx index rest structs
          pure (structs, f :: funcs)
      | .method receiver name s =>
          match targets? index receiver with
          | none => callables ctx index rest structs
          | some (owner, targets) => do
              let m ← method ctx owner name comments s
              callables ctx index rest (attach m targets structs)
      | _ => callables ctx index rest structs

/-! ## Files -/

def annotate (s : Struct) : Struct :=
  { s with annotations := Annotation.decodeAll s.pkg s.name s.comments }

def declarations (ctx : Context) (decls : List (Source.Decl × List String)) :
    Noted (List Struct × List Interface × List Func) := do
  let found ← types ctx decls
  -- The index is taken before any struct has a method.
  let (ss, funcs) ← callables ctx (structIndex (structs found)) decls (structs found)
  pure (ss.map annotate, interfaces found, funcs)

def emptyModel (ctx : Context) : File :=
  { pkg := ctx.pkg, packageName := ctx.packageName, filePath := ctx.filePath,
    structs := [], interfaces := [], funcs := [], diagnostics := [] }

def model (ctx : Context) (file : Source.File) : File :=
  if file.hasComment then
    let found := declarations ctx (Source.Sibling.documented file.items)
    let (structs, interfaces, funcs) := found.value
    { emptyModel ctx with structs, interfaces, funcs, diagnostics := found.diagnostics }
  else emptyModel ctx

def ofSource (ctx : Context) (source : String) : File :=
  model ctx (Source.File.parse source)

end Extract
end GoSurvey
