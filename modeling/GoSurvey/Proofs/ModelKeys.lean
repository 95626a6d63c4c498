import GoSurvey.Proofs.PackageMethods
import GoSurvey.Proofs.PatternLists
import GoSurvey.Proofs.ResolvedTypes

/-!
# The keys of a model

Every part of a model names what holds it: a parameter its function, a field its struct, a method
its owner, and all of them their package. These keys are written where each part is made.

* `Model.Struct.BelongsTo`, `Model.Method.BelongsTo`, … — the keys of a part and of all that it
  holds are those of its holder;
* `Model.Package.KeysAgree` — the keys agree throughout the model of a package;
* `Extract.belongsTo_model` — they do in the model of a file;
* `Scan.keysAgree_of_run` — they do in everything that a scan returns.
-/

namespace GoSurvey

/-- The pointer flag of a type tells whether its text starts with a star. -/
def ResolvedType.Flagged (r : ResolvedType) : Prop :=
  r.pointer = true ↔ ∃ rest, r.typeName.toList = '*' :: rest

/-- No word starts with a star, and the empty text of an unsupported type does not either. -/
theorem ResolvedType.OfShape.flagged {r : ResolvedType} (h : r.OfShape) : r.Flagged := by
  rcases h with ⟨shape, hnamed, subject, place, rfl⟩
  cases shape with
  | unsupported kind text =>
      simp [Flagged, Extract.resolve, TypeShape.resolve, Extract.unresolved]
  | _ => exact hnamed.isPointer_iff_star rfl

/-! ## Keys -/

namespace Model

/-- A method of a struct or interface, with its parameters and results. -/
structure Method.BelongsTo (pkg owner : String) (m : Method) : Prop where
  pkg_eq : m.pkg = pkg
  owner_eq : m.owner = owner
  params : ∀ p ∈ m.params, p.funcName = m.name
  results : ∀ r ∈ m.results, r.funcName = m.name

/-- A struct of a package, with all that it holds. An annotation was read from one of the comments
of its struct. -/
structure Struct.BelongsTo (pkg packageName : String) (s : Struct) : Prop where
  pkg_eq : s.pkg = pkg
  packageName_eq : s.packageName = packageName
  fields : ∀ f ∈ s.fields, f.structName = s.name
  methods : ∀ m ∈ s.methods, m.BelongsTo pkg s.name
  annotations : ∀ a ∈ s.annotations, a.pkg = pkg ∧ a.structName = s.name ∧ a.raw ∈ s.comments

/-- An interface of a package, with its methods. -/
structure Interface.BelongsTo (pkg : String) (i : Interface) : Prop where
  pkg_eq : i.pkg = pkg
  methods : ∀ m ∈ i.methods, m.BelongsTo pkg i.name

/-- A function of a package, with its parameters and results. -/
structure Func.BelongsTo (pkg : String) (f : Func) : Prop where
  pkg_eq : f.pkg = pkg
  params : ∀ p ∈ f.params, p.funcName = f.name
  results : ∀ r ∈ f.results, r.funcName = f.name

/-- A file of a package, with all its declarations and with the types of all fields, parameters and
results in them. -/
structure File.BelongsTo (pkg packageName : String) (f : File) : Prop where
  pkg_eq : f.pkg = pkg
  packageName_eq : f.packageName = packageName
  structs : ∀ s ∈ f.structs, s.BelongsTo pkg packageName
  interfaces : ∀ i ∈ f.interfaces, i.BelongsTo pkg
  funcs : ∀ g ∈ f.funcs, g.BelongsTo pkg
  flagged : ∀ r ∈ f.resolvedTypes, r.Flagged

/-- The keys agree throughout a package, and none of its files is without structs. -/
structure Package.KeysAgree (p : Package) : Prop where
  id_eq : p.id = p.pkgPath
  structs_ne_nil : ∀ f ∈ p.files, f.structs ≠ []
  files : ∀ f ∈ p.files, f.BelongsTo p.pkgPath p.name

end Model

/-! ## Declarations -/

namespace Extract

open Model Source

theorem belongsTo_method (ctx : Context) (owner name : String) (comments : List String)
    (s : Signature) : (method ctx owner name comments s).value.BelongsTo ctx.pkg owner where
  pkg_eq := rfl
  owner_eq := rfl
  params := fun _ hp => (mem_params hp).1
  results := fun _ hr => (mem_results hr).1

/-- An annotation carries the names it was decoded with, and a line of the comment it was decoded
from. -/
theorem annotations_belong (pkg structName : String) (comments : List String) :
    ∀ a ∈ Annotation.decodeAll pkg structName comments,
      a.pkg = pkg ∧ a.structName = structName ∧ a.raw ∈ comments := by
  intro a ha
  rcases List.mem_flatMap.1 ha with ⟨comment, hcomment, ha⟩
  rcases List.mem_map.1 ha with ⟨line, -, rfl⟩
  exact ⟨rfl, rfl, hcomment⟩

section Declarations

variable {ctx : Context} {file : Source.File}

/-- A struct agrees with its fields, methods and annotations on package and name. -/
theorem belongsTo_struct {s : Struct} (h : s ∈ (model ctx file).structs) :
    s.BelongsTo ctx.pkg ctx.packageName := by
  rw [structs_model_eq_map] at h
  rcases List.mem_map.1 h with ⟨d, -, rfl⟩
  refine ⟨rfl, rfl, ?_, ?_, annotations_belong ctx.pkg d.name d.docs⟩
  · intro f hf
    rcases List.mem_map.1 hf with ⟨g, -, rfl⟩
    rfl
  · -- A method is made for the name of the struct, not for what its receiver spells.
    intro m hm
    rcases List.mem_filterMap.1 hm with ⟨decl, -, hmethod⟩
    rcases methodOf?_eq_some hmethod with ⟨receiver, name, s, -, rfl⟩
    exact belongsTo_method ctx d.name name decl.2 s

theorem belongsTo_interface {i : Interface} (h : i ∈ (model ctx file).interfaces) :
    i.BelongsTo ctx.pkg := by
  rw [interfaces_model_eq_map] at h
  rcases List.mem_map.1 h with ⟨d, -, rfl⟩
  refine ⟨rfl, ?_⟩
  intro m hm
  simp only [interface, Noted.value_bind, Noted.value_each, Noted.value_pure] at hm
  rcases List.mem_map.1 hm with ⟨⟨name, s, docs⟩, -, rfl⟩
  exact belongsTo_method ctx d.name name docs s

theorem belongsTo_func {f : Func} (h : f ∈ (model ctx file).funcs) : f.BelongsTo ctx.pkg := by
  rw [funcs_model_eq_filterMap] at h
  split at h
  · rcases List.mem_filterMap.1 h with ⟨d, -, hfunc⟩
    rcases function?_eq_some hfunc with ⟨start, name, s, -, rfl⟩
    exact ⟨rfl, fun _ hp => (mem_params hp).1, fun _ hr => (mem_results hr).1⟩
  · simp at h

variable (ctx) in
/-- All keys in the model of a file are those of its package. The types of the file have names that
are words, as those of every parsed file. -/
theorem belongsTo_model (hfile : TypeExpr.Named file.typeExprs) :
    (model ctx file).BelongsTo ctx.pkg ctx.packageName where
  pkg_eq := by cases hcomment : file.hasComment <;> simp [model, hcomment, emptyModel]
  packageName_eq := by cases hcomment : file.hasComment <;> simp [model, hcomment, emptyModel]
  structs := fun _ => belongsTo_struct
  interfaces := fun _ => belongsTo_interface
  funcs := fun _ => belongsTo_func
  flagged := fun _ hr => (ofShape_of_mem_model hfile hr).flagged

end Declarations

end Extract

/-! ## Packages -/

namespace Load

variable {t : FileTree} {excludes : ExcludeSet} {includeTests : Bool} {root dir : Location}
  {p : LoadedPackage}

/-- The identifier of a package is its import path. -/
theorem id_of_package_eq_ok (h : package t excludes includeTests root dir = .ok (some p)) :
    p.id = p.importPath := by
  rcases package_eq_ok_iff.1 h with ⟨-, hnone⟩ | ⟨-, _, _, _, _, -, -, -, hsome⟩
  · simp at hnone
  · obtain rfl := Option.some.inj hsome
    rfl

/-- The outline of a file is that of the content read from it. -/
theorem outline_of_package_eq_ok (h : package t excludes includeTests root dir = .ok (some p)) :
    ∀ f ∈ p.files, f.outline = Source.File.parse f.content := by
  rcases package_eq_ok_iff.1 h with ⟨-, hnone⟩ | ⟨-, base, _, _, files, -, -, hfiles, hsome⟩
  · simp at hnone
  · obtain rfl := Option.some.inj hsome
    -- Only the files matter, so they are put on the side that keeps a property of its own.
    have hread := hfiles.flip.imp fun f source hfile =>
      And.intro (file_eq_ok_iff.1 hfile).2.2 hfile
    exact ((List.forall₂_and_left _ _).1 hread).1

end Load

namespace Scan

open Model

/-- A package agrees with its parts once its outlines are those of its files. -/
theorem keysAgree_package {p : LoadedPackage} (hid : p.id = p.importPath)
    (hfiles : ∀ f ∈ p.files, f.outline = Source.File.parse f.content) : (package p).KeysAgree where
  id_eq := hid
  structs_ne_nil := by
    intro f hf
    have hkept := (List.mem_filter.1 hf).2
    simpa using hkept
  files := by
    intro f hf
    -- All files of a package are surveyed under its path and its name.
    rcases List.mem_map.1 (List.mem_filter.1 hf).1 with ⟨g, hg, rfl⟩
    have hnamed : Source.TypeExpr.Named g.outline.typeExprs := by
      rw [hfiles g hg]
      exact Source.File.named_parse g.content
    exact Extract.belongsTo_model ⟨p.importPath, p.name, g.path⟩ hnamed

/-- In everything that a scan returns the keys agree. -/
theorem keysAgree_of_run {t : FileTree} {texts : List String} {config : Config}
    {found : List Package} (h : run t texts config = .ok found) : ∀ p ∈ found, p.KeysAgree := by
  rcases Outcome.map_eq_ok_iff.1 h with ⟨loaded, hloaded, rfl⟩
  intro p hp
  rcases List.mem_map.1 hp with ⟨q, hq, rfl⟩
  rcases Load.package_of_mem_roots hloaded hq with ⟨excludes, root, hpackage⟩
  exact keysAgree_package (Load.id_of_package_eq_ok hpackage)
    (Load.outline_of_package_eq_ok hpackage)

/-! ## A package with all kinds of parts -/

/-- A struct with an annotation and a pointer, an interface, a method and a function. -/
def keyedSource : String :=
  "package p\n\n// @Table\ntype A struct\x7b F *B \x7d\n\n// I is documented.\n" ++
    "type I interface\x7b N(*A) \x7d\n\nfunc (A) M(b B) *q.C \x7b\x7d\n\nfunc G() A \x7b\x7d\n"

def keyedTree : FileTree :=
  { root := .dir [(Text.utf8 "a.go", .file keyedSource.toUTF8)], home := [] }

def keyedPackage : LoadedPackage :=
  { id := "", name := "p", importPath := "", dir := []
    files := [⟨"a.go", keyedSource, Source.File.parse keyedSource⟩] }

theorem roots_keyedTree : Load.roots keyedTree ["."] {} = .ok [keyedPackage] := by
  decide +kernel

/-- The package has a field, methods, an interface, a function and an annotation. -/
theorem keysAgree_of_run_keyedTree :
    run keyedTree ["."] {} = .ok [package keyedPackage] ∧ (package keyedPackage).KeysAgree ∧
      (package keyedPackage).files.map File.resolvedTypes =
        [[⟨"*B", true⟩, ⟨"B", false⟩, ⟨"*q.C", true⟩, ⟨"*A", true⟩, ⟨"A", false⟩]] ∧
      (package keyedPackage).structs.map
          (fun s => (s.name, s.methods.map (·.name), s.annotations.map (·.name))) =
        [("A", ["M"], ["Table"])] := by
  have hrun : run keyedTree ["."] {} = .ok [package keyedPackage] := by
    rw [run, roots_keyedTree]
    rfl
  refine ⟨hrun, keysAgree_of_run hrun _ List.mem_cons_self, ?_⟩
  decide +kernel

end Scan
end GoSurvey
