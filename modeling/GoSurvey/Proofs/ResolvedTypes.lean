import GoSurvey.Proofs.DeclarationNames
import GoSurvey.Proofs.SignatureEntries
import GoSurvey.Proofs.TypeTexts

/-!
# The types of a model

The text of a resolved type is put together from words of the source.

* `Model.File.resolvedTypes` — the types of all fields, parameters and results of a model;
* `Extract.ofShape_of_mem_model`, `Extract.ofWords_of_mem_model` — each of them is what a shape made
  of words resolves to, and so is empty or made of words;
* `Extract.readsBack_iff_alphanumeric` — which of them are read back as they are stored: those without
  a character that goes on with a word and is neither a low line nor alphanumeric.
-/

namespace GoSurvey

/-! ## The types of a model -/

namespace Model

def Field.resolved (f : Field) : ResolvedType :=
  ⟨f.typeName, f.pointer⟩

def Param.resolved (p : Param) : ResolvedType :=
  ⟨p.typeName, p.pointer⟩

def Result.resolved (r : Result) : ResolvedType :=
  ⟨r.typeName, r.pointer⟩

def signatureTypes (params : List Param) (results : List Result) : List ResolvedType :=
  params.map Param.resolved ++ results.map Result.resolved

def methodTypes (methods : List Method) : List ResolvedType :=
  methods.flatMap fun m => signatureTypes m.params m.results

/-- The types of all fields, parameters and results of a model. -/
def File.resolvedTypes (f : File) : List ResolvedType :=
  (f.structs.flatMap fun s => s.fields.map Field.resolved ++ methodTypes s.methods) ++
    (f.interfaces.flatMap fun i => methodTypes i.methods) ++
    f.funcs.flatMap fun g => signatureTypes g.params g.results

end Model

open Model Source

def ResolvedType.OfShape (r : ResolvedType) : Prop :=
  ∃ shape : TypeShape, shape.Named ∧
    ∃ subject place, r = (Extract.resolve subject place shape).value

/-- The type is empty, or has the text and the pointer flag of a shape made of words. -/
def ResolvedType.OfWords (r : ResolvedType) : Prop :=
  r.typeName = "" ∨
    ∃ shape : TypeShape, shape.Named ∧ shape.canonical? = some r.typeName ∧
      shape.isPointer = r.pointer

/-- A shape whose names are words gives a text made of them. -/
theorem ResolvedType.OfShape.ofWords {r : ResolvedType} (h : r.OfShape) : r.OfWords := by
  rcases h with ⟨shape, hnamed, subject, place, rfl⟩
  cases shape with
  | unsupported kind text => exact Or.inl rfl
  | _ => exact Or.inr ⟨_, hnamed, rfl, rfl⟩

namespace TypeShape

theorem named_ofExpr {t : TypeExpr} (h : t.form.Named) : (ofExpr t).Named := by
  unfold ofExpr
  split
  all_goals
    next hform =>
      simp only [hform, TypeForm.Named] at h
      simp [Named, names, h]

theorem named_unsupported (kind text : String) : (unsupported kind text).Named := by
  simp [Named, names]

theorem Named.toPointer {shape : TypeShape} (h : shape.Named) : shape.toPointer.Named := by
  cases shape with
  | ident name => exact h
  | qualified package name => exact h
  | _ => exact named_unsupported _ _

end TypeShape

namespace Extract

/-! ## Fields, parameters and results -/

/-- A type resolves to a text of its shape, or to none. -/
theorem ofShape_resolveExpr {t : TypeExpr} (h : t.form.Named) (subject : Subject) :
    (resolveExpr subject t).value.OfShape :=
  ⟨.ofExpr t, TypeShape.named_ofExpr h, subject, t.start, rfl⟩

/-- The type of a field, embedded behind a star or not, is of some shape. -/
theorem ofShape_field {f : Source.Field} (h : f.typeExpr.form.Named) (structName : String) :
    (field structName f).value.resolved.OfShape := by
  cases f with
  | named first more type tag => exact ofShape_resolveExpr h _
  | embedded star type tag =>
      cases star with
      | false => exact ofShape_resolveExpr h _
      | true =>
          -- The star belongs to the field, so the shape is not that of the type alone.
          exact ⟨_, (TypeShape.named_ofExpr h).toPointer, _, type.start, rfl⟩

/-- A variadic parameter has no type text. -/
theorem ofShape_paramType {item : ParamItem} (h : item.type.form.Named) (subject : Subject) :
    (paramType subject item).value.OfShape := by
  unfold paramType
  split
  · exact ⟨_, TypeShape.named_unsupported _ _, subject, item.start, rfl⟩
  · exact ofShape_resolveExpr h subject

/-- Every entry of a parameter list has the name of the callable and the type of an item. -/
theorem mem_params {label funcName : String} {index : Nat} {items : List ParamItem} {p : Param}
    (hp : p ∈ (params label funcName index items).value) :
    p.funcName = funcName ∧
      ∃ item ∈ items, ∃ subject, p.resolved = (paramType subject item).value := by
  rw [value_params] at hp
  rcases List.mem_flatMap.1 hp with ⟨item, hitem, hentry⟩
  -- All names of an item share its type.
  rcases List.mem_map.1 hentry with ⟨name, -, rfl⟩
  exact ⟨rfl, item, hitem, ⟨label, name⟩, (value_paramType _ item).symm⟩

theorem map_type_items (result : ResultSpec) : result.items.map (·.type) = result.typeExprs := by
  cases result <;> rfl

/-- Every entry of a result has the name of the callable and the type of an item, or the single
type. -/
theorem mem_results {label funcName : String} {result : ResultSpec} {r : Result}
    (hr : r ∈ (results label funcName result).value) :
    r.funcName = funcName ∧
      ∃ type ∈ result.typeExprs, ∃ subject, r.resolved = (resolveExpr subject type).value := by
  rw [value_results] at hr
  rcases List.mem_flatMap.1 hr with ⟨item, hitem, hentry⟩
  rcases List.mem_map.1 hentry with ⟨name, -, rfl⟩
  have htype : item.type ∈ result.typeExprs := by
    rw [← map_type_items]
    exact List.mem_map_of_mem hitem
  exact ⟨rfl, item.type, htype, ⟨label, ""⟩, (value_resolve _ _ _).symm⟩

/-- All types of a signature are of some shape. -/
theorem ofShape_signature {s : Signature} (h : TypeExpr.Named s.typeExprs)
    (owner funcName : String) :
    ∀ r ∈ signatureTypes (signature owner funcName s).value.1 (signature owner funcName s).value.2,
      r.OfShape := by
  rcases List.forall_mem_append.1 h with ⟨hparams, hresult⟩
  intro r hr
  rcases List.mem_append.1 hr with hr | hr
  · rcases List.mem_map.1 hr with ⟨p, hp, rfl⟩
    rcases mem_params hp with ⟨-, item, hitem, subject, hresolved⟩
    rw [hresolved]
    exact ofShape_paramType (hparams _ (List.mem_map_of_mem hitem)) subject
  · rcases List.mem_map.1 hr with ⟨result, hmem, rfl⟩
    rcases mem_results hmem with ⟨-, type, htype, subject, hresolved⟩
    rw [hresolved]
    exact ofShape_resolveExpr (hresult type htype) subject

/-! ## Declarations -/

theorem mem_values_of_mem_methodElements {elements : List (Sibling Element)} {name : String}
    {s : Signature} {docs : List String} (h : (name, s, docs) ∈ methodElements elements) :
    Element.method name s ∈ Sibling.values elements := by
  rcases List.mem_filterMap.1 h with ⟨⟨element, comments⟩, helement, hmethod⟩
  cases element with
  | constraint => simp at hmethod
  | method elementName signature =>
      cases hmethod
      exact Sibling.fst_mem_values helement

section Declarations

variable {ctx : Context} {file : Source.File} (hfile : TypeExpr.Named file.typeExprs)

include hfile

/-- Every declaration of a file that was read has words for names. -/
theorem named_of_mem_documented {d : Decl × List String}
    (hd : d ∈ Sibling.documented file.items) : TypeExpr.Named d.1.typeExprs :=
  fun t ht => hfile t (List.mem_flatMap.2 ⟨d.1, Sibling.fst_mem_values hd, ht⟩)

theorem named_of_mem_entriesWithDocs {entry : TypeDecl × List String}
    (h : entry ∈ entriesWithDocs (Sibling.documented file.items)) :
    TypeExpr.Named entry.1.typeExprs := by
  rcases Sibling.exists_types_of_mem_entriesWithDocs h with ⟨entries, hitem, hentry⟩
  intro t ht
  exact hfile t (List.mem_flatMap.2 ⟨_, hitem, List.mem_flatMap.2 ⟨entry.1, hentry, ht⟩⟩)

theorem ofShape_fields {s : Struct} (hs : s ∈ (model ctx file).structs) :
    ∀ f ∈ s.fields, f.resolved.OfShape := by
  rw [structs_model_eq_map] at hs
  rcases List.mem_map.1 hs with ⟨d, hd, rfl⟩
  rcases List.mem_filterMap.1 hd with ⟨entry, hentry, hstruct⟩
  obtain rfl := Documented.struct?_eq_some hstruct
  intro f hf
  rcases List.mem_map.1 hf with ⟨g, hg, rfl⟩
  exact ofShape_field (named_of_mem_entriesWithDocs hfile hentry _ (List.mem_map_of_mem hg)) d.name

theorem ofShape_methods_struct {s : Struct} (hs : s ∈ (model ctx file).structs) :
    ∀ r ∈ methodTypes s.methods, r.OfShape := by
  intro r hr
  rcases List.mem_flatMap.1 hr with ⟨m, hm, hr⟩
  rw [methods_of_mem_model hs] at hm
  rcases List.mem_filterMap.1 hm with ⟨d, hd, hmethod⟩
  rcases methodOf?_eq_some hmethod with ⟨receiver, name, signature, hdecl, rfl⟩
  have hnamed := named_of_mem_documented hfile hd
  rw [hdecl] at hnamed
  exact ofShape_signature hnamed s.name name r hr

theorem ofShape_methods_interface {i : Interface} (hi : i ∈ (model ctx file).interfaces) :
    ∀ r ∈ methodTypes i.methods, r.OfShape := by
  rw [interfaces_model_eq_map] at hi
  rcases List.mem_map.1 hi with ⟨d, hd, rfl⟩
  rcases List.mem_filterMap.1 hd with ⟨entry, hentry, hinterface⟩
  obtain rfl := Documented.interface?_eq_some hinterface
  intro r hr
  rcases List.mem_flatMap.1 hr with ⟨m, hm, hr⟩
  simp only [interface, Noted.value_bind, Noted.value_each, Noted.value_pure] at hm
  rcases List.mem_map.1 hm with ⟨⟨name, s, docs⟩, hs, rfl⟩
  have hnamed : TypeExpr.Named s.typeExprs := fun t ht =>
    named_of_mem_entriesWithDocs hfile hentry t
      (List.mem_flatMap.2 ⟨.method name s, mem_values_of_mem_methodElements hs, ht⟩)
  exact ofShape_signature hnamed d.name name r hr

theorem ofShape_funcs {f : Func} (hf : f ∈ (model ctx file).funcs) :
    ∀ r ∈ signatureTypes f.params f.results, r.OfShape := by
  rw [funcs_model_eq_filterMap] at hf
  split at hf
  · rcases List.mem_filterMap.1 hf with ⟨d, hd, hfunc⟩
    rcases function?_eq_some hfunc with ⟨start, name, s, hdecl, rfl⟩
    have hnamed := named_of_mem_documented hfile hd
    rw [hdecl] at hnamed
    exact ofShape_signature hnamed name name
  · simp at hf

/-- The type of every field, parameter and result in the model of a file is what a shape made of
words of the file resolves to. -/
theorem ofShape_of_mem_model {r : ResolvedType} (hr : r ∈ (model ctx file).resolvedTypes) :
    r.OfShape := by
  rcases List.mem_append.1 hr with hr | hr
  · rcases List.mem_append.1 hr with hr | hr
    · -- a struct: its fields come from the first pass, its methods from the second
      rcases List.mem_flatMap.1 hr with ⟨s, hs, hr⟩
      rcases List.mem_append.1 hr with hr | hr
      · rcases List.mem_map.1 hr with ⟨f, hf, rfl⟩
        exact ofShape_fields hfile hs f hf
      · exact ofShape_methods_struct hfile hs r hr
    · -- an interface
      rcases List.mem_flatMap.1 hr with ⟨i, hi, hr⟩
      exact ofShape_methods_interface hfile hi r hr
  · -- a function
    rcases List.mem_flatMap.1 hr with ⟨f, hf, hr⟩
    exact ofShape_funcs hfile hf r hr

/-- The type of every field, parameter and result in the model of a file is empty or made of words
of the file. -/
theorem ofWords_of_mem_model {r : ResolvedType} (hr : r ∈ (model ctx file).resolvedTypes) :
    r.OfWords :=
  (ofShape_of_mem_model hfile hr).ofWords

end Declarations

/-! ## Reading back -/

/-- The text of the type is read as a shape of which it is the canonical text, and which is a pointer
exactly if the type is stored as one. -/
def ReadsBack (r : ResolvedType) : Prop :=
  ∃ shape, TypeShape.parse r.typeName = .ok shape ∧ shape.canonical? = some r.typeName ∧
    shape.isPointer = r.pointer

/-- The text of a type is read back exactly if all of its characters, a star and a point apart, are
low lines or alphanumeric. Otherwise it is refused as a whole, and a character of a word is to blame:
one that goes on with a word of the source, but not with a plain name. -/
theorem readsBack_iff_alphanumeric (ctx : Context) (source : String) {r : ResolvedType}
    (hr : r ∈ (ofSource ctx source).resolvedTypes) (hname : r.typeName ≠ "") :
    (ReadsBack r ↔
      ∀ c ∈ r.typeName.toList, c = '*' ∨ c = '.' ∨ c = '_' ∨ Text.isAlphanumeric c = true) ∧
      (¬ ReadsBack r →
        TypeShape.parse r.typeName = .error ⟨"text", r.typeName⟩ ∧
          ∃ c ∈ r.typeName.toList, Text.isXidContinue c = true ∧ Text.isAlphanumeric c = false ∧
            c ≠ '_') := by
  rcases ofWords_of_mem_model (File.named_parse source) hr with hempty | hshape
  · exact absurd hempty hname
  rcases hshape with ⟨shape, hnamed, htext, hpointer⟩
  -- Any shape that the text is read as has plain names, so that the characters decide; and if they
  -- are plain, the text is read as the shape that it was made from.
  have hchars : ∀ shape', TypeShape.parse r.typeName = .ok shape' →
      ∀ c ∈ r.typeName.toList, c = '*' ∨ c = '.' ∨ c = '_' ∨ Text.isAlphanumeric c = true := by
    intro shape' hparse c hc
    rcases TypeShape.parse_eq_ok_iff.1 hparse with ⟨hplain, htext'⟩
    exact hplain.plain_text htext' hc
  have hback : (∀ c ∈ r.typeName.toList,
      c = '*' ∨ c = '.' ∨ c = '_' ∨ Text.isAlphanumeric c = true) → ReadsBack r := by
    intro hplain
    have hparse : TypeShape.parse r.typeName = .ok shape :=
      TypeShape.parse_eq_ok_iff.2 ⟨hnamed.isPlain_of_plain_text htext hplain, htext⟩
    exact ⟨shape, hparse, htext, hpointer⟩
  refine ⟨⟨fun ⟨shape', hparse, _⟩ => hchars shape' hparse, hback⟩, ?_⟩
  intro hnot
  refine ⟨TypeShape.parse_eq_error fun shape' hparse => hnot (hback (hchars shape' hparse)), ?_⟩
  rcases Classical.not_forall.1 fun hall => hnot (hback hall) with ⟨c, hodd⟩
  rcases Classical.not_imp.1 hodd with ⟨hc, hodd⟩
  refine ⟨c, hc, hnamed.isXidContinue_of_mem htext hc hodd, ?_⟩
  simp only [not_or, Bool.not_eq_true] at hodd
  exact ⟨hodd.2.2.2, hodd.2.2.1⟩

/-- A struct with two fields, of which the first has a type named by a letter with an accent after
it. -/
def accentedSource : String :=
  "package p\n\n// A is documented.\ntype A struct \x7b\n\tF e\u0301\n\tG *q.T\n\x7d\n"

/-- The source has a type whose name ends in a combining accent. -/
theorem resolvedTypes_accentedSource :
    (ofSource ⟨"", "", ""⟩ accentedSource).resolvedTypes = [⟨"e\u0301", false⟩, ⟨"*q.T", true⟩] := by
  decide +kernel

/-- The pointer is read back, the accented name is refused. -/
theorem readsBack_iff_alphanumeric_accentedSource :
    (ofSource ⟨"", "", ""⟩ accentedSource).resolvedTypes = [⟨"e\u0301", false⟩, ⟨"*q.T", true⟩] ∧
      ReadsBack ⟨"*q.T", true⟩ ∧ ¬ ReadsBack ⟨"e\u0301", false⟩ ∧
      TypeShape.parse "e\u0301" = .error ⟨"text", "e\u0301"⟩ := by
  have hall : ∀ r ∈ [(⟨"e\u0301", false⟩ : ResolvedType), ⟨"*q.T", true⟩],
      r ∈ (ofSource ⟨"", "", ""⟩ accentedSource).resolvedTypes ∧ r.typeName ≠ "" := by
    rw [resolvedTypes_accentedSource]
    decide
  rcases hall ⟨"*q.T", true⟩ (by simp) with ⟨hpointer, hname⟩
  rcases hall ⟨"e\u0301", false⟩ (by simp) with ⟨haccent, hname'⟩
  have hplain : ("*q.T".toList.all fun c =>
      c == '*' || c == '.' || c == '_' || Text.isAlphanumeric c) = true := by
    decide
  have hread : ReadsBack ⟨"*q.T", true⟩ := by
    refine (readsBack_iff_alphanumeric _ _ hpointer hname).1.2 ?_
    simpa [or_assoc] using hplain
  rcases readsBack_iff_alphanumeric _ _ haccent hname' with ⟨hiff, hrefused⟩
  have hodd : ¬ ReadsBack ⟨"e\u0301", false⟩ := by
    intro hback
    have haccent : '\u0301' = '*' ∨ '\u0301' = '.' ∨ '\u0301' = '_' ∨
        Text.isAlphanumeric '\u0301' = true := hiff.1 hback '\u0301' (by decide)
    revert haccent
    decide
  exact ⟨resolvedTypes_accentedSource, hread, hodd, (hrefused hodd).1⟩

/-- An accent goes on with a word of the source but with no plain name, so that a type is stored
whose text is refused. -/
theorem readsBack_fails_with_accent :
    ∃ r ∈ (ofSource ⟨"", "", ""⟩ accentedSource).resolvedTypes,
      r.typeName ≠ "" ∧ ¬ ReadsBack r := by
  have hrefused : TypeShape.parse "e\u0301" = .error ⟨"text", "e\u0301"⟩ := by decide
  refine ⟨⟨"e\u0301", false⟩, by simp [resolvedTypes_accentedSource], by decide, ?_⟩
  rintro ⟨shape, hparse, -⟩
  simp [hrefused] at hparse

end Extract
end GoSurvey
