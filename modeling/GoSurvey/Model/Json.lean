import GoSurvey.Json.Printer
import GoSurvey.Json.Reader
import GoSurvey.Model

/-!
# The model in JSON

For each record of the model its keys, its document (`toJson`), and the record that a document is
(`ofJson?`). Every key is required but the value of an annotation and the name of a result.

* `Model.Package.render` — the text of a package model;
* `Model.Package.parse?` — the package model that a text spells.
-/

namespace GoSurvey

/-! ## Tags and annotations -/

def TagEntry.toJson (e : TagEntry) : Json :=
  .record [("key", .text e.key), ("value", .text e.value)]

def TagEntry.ofJson? (v : Json) : Option TagEntry :=
  match v.exactFields? ["key", "value"] with
  | some [some key, some value] => do
      some ⟨← key.text?, ← value.text?⟩
  | _ => none

def Tag.toJson (t : Tag) : Json :=
  .record [("raw", .text t.raw), ("entries", .list TagEntry.toJson t.entries)]

def Tag.ofJson? (v : Json) : Option Tag :=
  match v.exactFields? ["raw", "entries"] with
  | some [some raw, some entries] => do
      some ⟨← raw.text?, ← entries.list? TagEntry.ofJson?⟩
  | _ => none

def Annotation.toJson (a : Annotation) : Json :=
  .record
    [("pkg", .text a.pkg), ("struct_name", .text a.structName), ("name", .text a.name),
     ("value", .optionalText a.value), ("raw", .text a.raw)]

def Annotation.ofJson? (v : Json) : Option Annotation :=
  match v.exactFields? ["pkg", "struct_name", "name", "value", "raw"] with
  | some [some pkg, some structName, some name, value, some raw] => do
      some
        ⟨← pkg.text?, ← structName.text?, ← name.text?, ← (value.getD .null).optionalText?,
          ← raw.text?⟩
  | _ => none

namespace Model

/-! ## Positions and diagnostics -/

def Position.toJson (p : Position) : Json :=
  .record
    [("line", .nat p.line.toNat), ("column", .nat p.column.toNat), ("offset", .nat p.offset.toNat)]

def Position.ofJson? (v : Json) : Option Position :=
  match v.exactFields? ["line", "column", "offset"] with
  | some [some line, some column, some offset] => do
      some ⟨← line.word32?, ← column.word32?, ← offset.word32?⟩
  | _ => none

def Diagnostic.toJson (d : Diagnostic) : Json :=
  .record
    [("owner", .text d.owner), ("item", .text d.item), ("position", d.position.toJson),
     ("error", .text d.error)]

def Diagnostic.ofJson? (v : Json) : Option Diagnostic :=
  match v.exactFields? ["owner", "item", "position", "error"] with
  | some [some owner, some item, some position, some error] => do
      some ⟨← owner.text?, ← item.text?, ← Position.ofJson? position, ← error.text?⟩
  | _ => none

/-! ## Fields, parameters and results -/

def Field.toJson (f : Field) : Json :=
  .record
    [("struct_name", .text f.structName), ("name", .text f.name), ("type_name", .text f.typeName),
     ("pointer", .bool f.pointer), ("tags", .list Tag.toJson f.tags)]

def Field.ofJson? (v : Json) : Option Field :=
  match v.exactFields? ["struct_name", "name", "type_name", "pointer", "tags"] with
  | some [some structName, some name, some typeName, some pointer, some tags] => do
      some
        ⟨← structName.text?, ← name.text?, ← typeName.text?, ← pointer.bool?,
          ← tags.list? Tag.ofJson?⟩
  | _ => none

def Param.toJson (p : Param) : Json :=
  .record
    [("func_name", .text p.funcName), ("name", .text p.name), ("type_name", .text p.typeName),
     ("pointer", .bool p.pointer)]

def Param.ofJson? (v : Json) : Option Param :=
  match v.exactFields? ["func_name", "name", "type_name", "pointer"] with
  | some [some funcName, some name, some typeName, some pointer] => do
      some ⟨← funcName.text?, ← name.text?, ← typeName.text?, ← pointer.bool?⟩
  | _ => none

def Result.toJson (r : Result) : Json :=
  .record
    [("func_name", .text r.funcName), ("name", .optionalText r.name),
     ("type_name", .text r.typeName), ("pointer", .bool r.pointer)]

def Result.ofJson? (v : Json) : Option Result :=
  match v.exactFields? ["func_name", "name", "type_name", "pointer"] with
  | some [some funcName, name, some typeName, some pointer] => do
      some
        ⟨← funcName.text?, ← (name.getD .null).optionalText?, ← typeName.text?, ← pointer.bool?⟩
  | _ => none

/-! ## Declarations -/

def Method.toJson (m : Method) : Json :=
  .record
    [("pkg", .text m.pkg), ("owner", .text m.owner), ("name", .text m.name),
     ("comments", .list Json.text m.comments), ("params", .list Param.toJson m.params),
     ("returns", .list Result.toJson m.results)]

def Method.ofJson? (v : Json) : Option Method :=
  match v.exactFields? ["pkg", "owner", "name", "comments", "params", "returns"] with
  | some [some pkg, some owner, some name, some comments, some params, some results] => do
      some
        ⟨← pkg.text?, ← owner.text?, ← name.text?, ← comments.list? Json.text?,
          ← params.list? Param.ofJson?, ← results.list? Result.ofJson?⟩
  | _ => none

def Struct.toJson (s : Struct) : Json :=
  .record
    [("pkg", .text s.pkg), ("alias", .text s.packageName), ("name", .text s.name),
     ("position", s.position.toJson), ("comments", .list Json.text s.comments),
     ("fields", .list Field.toJson s.fields), ("methods", .list Method.toJson s.methods),
     ("annotations", .list Annotation.toJson s.annotations)]

def Struct.ofJson? (v : Json) : Option Struct :=
  match v.exactFields?
      ["pkg", "alias", "name", "position", "comments", "fields", "methods", "annotations"] with
  | some [some pkg, some packageName, some name, some position, some comments, some fields,
      some methods, some annotations] => do
      some
        ⟨← pkg.text?, ← packageName.text?, ← name.text?, ← Position.ofJson? position,
          ← comments.list? Json.text?, ← fields.list? Field.ofJson?,
          ← methods.list? Method.ofJson?, ← annotations.list? Annotation.ofJson?⟩
  | _ => none

def Interface.toJson (i : Interface) : Json :=
  .record
    [("pkg", .text i.pkg), ("name", .text i.name), ("position", i.position.toJson),
     ("comments", .list Json.text i.comments), ("methods", .list Method.toJson i.methods)]

def Interface.ofJson? (v : Json) : Option Interface :=
  match v.exactFields? ["pkg", "name", "position", "comments", "methods"] with
  | some [some pkg, some name, some position, some comments, some methods] => do
      some
        ⟨← pkg.text?, ← name.text?, ← Position.ofJson? position, ← comments.list? Json.text?,
          ← methods.list? Method.ofJson?⟩
  | _ => none

def Func.toJson (f : Func) : Json :=
  .record
    [("pkg", .text f.pkg), ("name", .text f.name), ("position", f.position.toJson),
     ("comments", .list Json.text f.comments), ("params", .list Param.toJson f.params),
     ("returns", .list Result.toJson f.results)]

def Func.ofJson? (v : Json) : Option Func :=
  match v.exactFields? ["pkg", "name", "position", "comments", "params", "returns"] with
  | some [some pkg, some name, some position, some comments, some params, some results] => do
      some
        ⟨← pkg.text?, ← name.text?, ← Position.ofJson? position, ← comments.list? Json.text?,
          ← params.list? Param.ofJson?, ← results.list? Result.ofJson?⟩
  | _ => none

/-! ## Files and packages -/

def File.toJson (f : File) : Json :=
  .record
    [("pkg", .text f.pkg), ("alias", .text f.packageName), ("file_path", .text f.filePath),
     ("structs", .list Struct.toJson f.structs), ("interfaces", .list Interface.toJson f.interfaces),
     ("funcs", .list Func.toJson f.funcs), ("diagnostics", .list Diagnostic.toJson f.diagnostics)]

def File.ofJson? (v : Json) : Option File :=
  match v.exactFields?
      ["pkg", "alias", "file_path", "structs", "interfaces", "funcs", "diagnostics"] with
  | some [some pkg, some packageName, some filePath, some structs, some interfaces, some funcs,
      some diagnostics] => do
      some
        ⟨← pkg.text?, ← packageName.text?, ← filePath.text?, ← structs.list? Struct.ofJson?,
          ← interfaces.list? Interface.ofJson?, ← funcs.list? Func.ofJson?,
          ← diagnostics.list? Diagnostic.ofJson?⟩
  | _ => none

def Package.toJson (p : Package) : Json :=
  .record
    [("id", .text p.id), ("name", .text p.name), ("pkg_path", .text p.pkgPath),
     ("packages", .list File.toJson p.files)]

def Package.ofJson? (v : Json) : Option Package :=
  match v.exactFields? ["id", "name", "pkg_path", "packages"] with
  | some [some id, some name, some pkgPath, some files] => do
      some ⟨← id.text?, ← name.text?, ← pkgPath.text?, ← files.list? File.ofJson?⟩
  | _ => none

def Package.render (p : Package) : String :=
  p.toJson.pretty

def Package.parse? (s : String) : Option Package :=
  (Json.parse? s).bind Package.ofJson?

def Package.invalidMessage : String :=
  "invalid root model"

end Model
end GoSurvey
