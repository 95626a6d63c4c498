import GoSurvey.Proofs.PointerTypes
import GoSurvey.Proofs.ResolvedTypes

/-!
# Fields with a pointer type

The type of an embedded field is put behind its star, and that of a named field is taken as a pointer
as it stands. This file compares what comes out of both for the same target.

* `Extract.SameType` — that two fields have the same type, and are both reported for it or not;
* `Extract.sameType_iff` — when an embedded field and a named one do;
* `Extract.field_value_mem_model`, `Extract.field_diagnostics_subset` — what is found of a field is
  part of the model of its source;
* `Extract.pointerFields_agree_iff_uncommented` — the two fields agree exactly if no comment stands
  behind the star of the named one, or if neither can be resolved.
-/

namespace GoSurvey

/-! ## Messages -/

theorem head?_toList_append {s : String} {c : Char} (h : s.toList.head? = some c) (s' : String) :
    (s ++ s').toList.head? = some c := by
  rw [String.toList_append, List.head?_append, h, Option.some_or]

theorem UnsupportedType.head?_message (e : UnsupportedType) :
    e.message.toList.head? = some 'u' := by
  have hstart : "unsupported type shape `".toList.head? = some 'u' := by decide
  exact head?_toList_append (head?_toList_append (head?_toList_append hstart _) _) _

theorem MalformedTag.head?_message (e : MalformedTag) : e.message.toList.head? = some 'm' := by
  have hstart : "malformed tag `".toList.head? = some 'm' := by decide
  exact head?_toList_append (head?_toList_append (head?_toList_append hstart _) _) _

namespace Extract

open Model Source

/-! ## Types of fields -/

def ReportsType {α : Type} (x : Noted α) : Prop :=
  ∃ d ∈ x.diagnostics, ∃ e : UnsupportedType, d.error = e.message

/-- Whether two fields are found to have the same type, and are both reported for it or not. -/
structure SameType (x y : Noted Model.Field) : Prop where
  typeName : x.value.typeName = y.value.typeName
  pointer : x.value.pointer = y.value.pointer
  reports : ReportsType x ↔ ReportsType y

def fieldShape (f : Source.Field) : TypeShape :=
  (fieldParts f).2.1

/-- The model shows the type of a field where it can be resolved, and the empty one otherwise. -/
theorem resolved_field (structName : String) (f : Source.Field) :
    (field structName f).value.resolved = ((fieldShape f).resolve.toOption).getD unresolved := by
  have hvalue : (field structName f).value.resolved =
      (resolve ⟨structName, (fieldParts f).1⟩ (fieldParts f).2.2.1.start (fieldShape f)).value := rfl
  rw [hvalue]
  cases fieldShape f <;> rfl

/-- The tag of a field is reported in other words than its type. -/
theorem not_reportsType_tags (subject : Subject) (tag : Option TagLiteral) :
    ¬ ReportsType (tags subject tag) := by
  rintro ⟨d, hd, u, hu⟩
  cases tag with
  | none => simp [tags] at hd
  | some literal =>
      cases hread : Tag.ofLiteral literal.text with
      | ok tag => simp [tags, hread] at hd
      | error e =>
          -- The report of a tag starts with another letter than that of a type.
          obtain rfl : d = ⟨subject.owner, subject.item, .ofPlace literal.start, e.message⟩ := by
            simpa [tags, hread, report, Noted.note] using hd
          have hstart : some 'm' = some 'u' := by
            rw [← e.head?_message, ← u.head?_message, ← hu]
          simp at hstart

/-- Resolving a type reports it or gives it, never both. -/
theorem reportsType_resolve_iff (subject : Subject) (place : Place) (shape : TypeShape) :
    ReportsType (resolve subject place shape) ↔ shape.resolve.toOption = none := by
  unfold ReportsType resolve
  cases hresolve : shape.resolve with
  | ok resolved => simp [Except.toOption]
  | error e => simp [Except.toOption, report, Noted.note]

/-- A field is reported for its type exactly if that cannot be resolved, whatever its tag. -/
theorem reportsType_field_iff (structName : String) (f : Source.Field) :
    ReportsType (field structName f) ↔ (fieldShape f).resolve.toOption = none := by
  let subject : Subject := ⟨structName, (fieldParts f).1⟩
  -- The notes of a field are those of its type, then those of its tag.
  have hsplit : (field structName f).diagnostics =
      (resolve subject (fieldParts f).2.2.1.start (fieldShape f)).diagnostics ++
        (tags subject (fieldParts f).2.2.2).diagnostics := by
    simp [field, fieldShape, subject]
  rw [← reportsType_resolve_iff subject (fieldParts f).2.2.1.start]
  unfold ReportsType
  rw [hsplit]
  constructor
  · rintro ⟨d, hd, e, he⟩
    rcases List.mem_append.1 hd with hd | hd
    · exact ⟨d, hd, e, he⟩
    · exact absurd ⟨d, hd, e, he⟩ (not_reportsType_tags subject (fieldParts f).2.2.2)
  · rintro ⟨d, hd, e, he⟩
    exact ⟨d, List.mem_append_left _ hd, e, he⟩

/-- All that counts of two fields is what their types resolve to. -/
theorem sameType_iff_resolve {name name' : String} {f g : Source.Field} :
    SameType (field name f) (field name' g) ↔
      ((fieldShape f).resolve.toOption).getD unresolved =
          ((fieldShape g).resolve.toOption).getD unresolved ∧
        ((fieldShape f).resolve.toOption = none ↔ (fieldShape g).resolve.toOption = none) := by
  rw [← resolved_field name f, ← resolved_field name' g, ← reportsType_field_iff name f,
    ← reportsType_field_iff name' g]
  constructor
  · intro h
    exact ⟨by rw [Field.resolved, Field.resolved, h.typeName, h.pointer], h.reports⟩
  · rintro ⟨hresolved, hreports⟩
    rcases ResolvedType.mk.inj hresolved with ⟨htypeName, hpointer⟩
    exact ⟨htypeName, hpointer, hreports⟩

section Pointers

variable {name name' first : String} {more : List String} {target pointer : TypeExpr}
  {tag tag' : Option TagLiteral} {commented : Bool}

/-- An embedded pointer and a named one to the same target have the same type, unless there is a
comment behind the star of the named one and the target can be resolved. -/
theorem sameType_iff (htarget : target.form.isEmbeddable = true)
    (hpointer : pointer.form = .pointer commented target.form) :
    SameType (field name (.embedded true target tag))
        (field name' (.named first more pointer tag')) ↔
      target.form = .other .generic ∨ commented = false := by
  have hnamed : fieldShape (.named first more pointer tag') = TypeShape.ofExpr pointer := rfl
  have hembedded : fieldShape (.embedded true target tag) = (TypeShape.ofExpr target).toPointer :=
    rfl
  rw [sameType_iff_resolve, hnamed, hembedded]
  rw [TypeShape.ofExpr, TypeShape.ofExpr, hpointer]
  -- What stands behind the star decides whether there is anything to agree on.
  cases hform : target.form with
  | pointer c inner => simp [hform, TypeForm.isEmbeddable] at htarget
  | other kind =>
      -- Neither of the two can be resolved.
      obtain rfl : kind = .generic := by
        cases kind <;> simp [hform, TypeForm.isEmbeddable] at htarget ⊢
      simp [TypeShape.toPointer, TypeShape.resolve, Except.toOption]
  | name id =>
      cases commented with
      | false => simp [TypeShape.toPointer]
      | true => simp [TypeShape.toPointer, TypeShape.resolve, Except.toOption]
  | qualified package id =>
      cases commented with
      | false => simp [TypeShape.toPointer]
      | true => simp [TypeShape.toPointer, TypeShape.resolve, Except.toOption]

end Pointers

/-! ## Fields in a model -/

section Model

variable (ctx : Context) {source : String} {d : Documented Source.Field} {f : Source.Field}
  (hd : d ∈ (Source.File.parse source).documentedStructs) (hf : f ∈ d.body)

include hd hf

/-- The fields of a documented struct are those the model lists. -/
theorem field_value_mem_model :
    ∃ s ∈ (ofSource ctx source).structs, s.name = d.name ∧ (field d.name f).value ∈ s.fields := by
  rw [ofSource, structs_model_eq_map]
  exact ⟨_, List.mem_map_of_mem hd, rfl, List.mem_map_of_mem hf⟩

/-- What is noted for a field of a documented struct is among the notes of its file. -/
theorem field_diagnostics_subset :
    (field d.name f).diagnostics ⊆ (ofSource ctx source).diagnostics := by
  rcases List.mem_filterMap.1 hd with ⟨entry, hentry, hstruct⟩
  have hdocs : entry.2 ≠ [] := by
    unfold Documented.struct? at hstruct
    split at hstruct
    · exact List.cons_ne_nil _ _
    · simp at hstruct
  have hcomment := Source.File.hasComment_of_mem_entriesWithDocs hentry hdocs
  obtain rfl := Documented.struct?_eq_some hstruct
  intro n hn
  have hfound : n ∈ (typeEntry ctx d.docs (.spec d.name (.struct d.start d.body))).diagnostics := by
    have hempty : d.docs.isEmpty = false := by simpa using hdocs
    simp only [typeEntry, hempty, struct, Bool.false_eq_true, if_false, Noted.diagnostics_bind,
      Noted.diagnostics_each, Noted.diagnostics_pure, List.append_nil]
    exact List.mem_flatMap.2 ⟨f, hf, hn⟩
  have htypes :
      n ∈ (types ctx (Sibling.documented (Source.File.parse source).items)).diagnostics := by
    rw [diagnostics_types]
    exact List.mem_flatMap.2 ⟨_, hentry, hfound⟩
  simp only [ofSource, model, hcomment, if_true, declarations, Noted.diagnostics_bind]
  exact List.mem_append_left _ htypes

end Model

/-! ## Embedded and named pointers -/

/-- Take a field of a documented struct that embeds a type behind a star, and a field of one, in the
same source or in another, that is named and has a pointer to the same type. The embedded type is a
name, a qualified name or a generic type. If it is generic, or if there is no comment among the
blanks behind the star of the named field, the two fields have the same type and pointer flag in the
model of their source, and both are reported for their type or neither is; and only then. -/
theorem pointerFields_agree_iff_uncommented (ctx : Context) {source source' : String}
    {d d' : Documented Source.Field} {target pointer : TypeExpr} {tag tag' : Option TagLiteral}
    {first : String} {more : List String} {commented : Bool}
    (hd : d ∈ (Source.File.parse source).documentedStructs)
    (hembedded : .embedded true target tag ∈ d.body)
    (hd' : d' ∈ (Source.File.parse source').documentedStructs)
    (hnamed : .named first more pointer tag' ∈ d'.body)
    (hpointer : pointer.form = .pointer commented target.form) :
    target.form.isEmbeddable = true ∧
      (∃ s ∈ (ofSource ctx source).structs,
        (field d.name (.embedded true target tag)).value ∈ s.fields) ∧
      (field d.name (.embedded true target tag)).diagnostics ⊆ (ofSource ctx source).diagnostics ∧
      (∃ s ∈ (ofSource ctx source').structs,
        (field d'.name (.named first more pointer tag')).value ∈ s.fields) ∧
      (field d'.name (.named first more pointer tag')).diagnostics ⊆
        (ofSource ctx source').diagnostics ∧
      (SameType (field d.name (.embedded true target tag))
          (field d'.name (.named first more pointer tag')) ↔
        target.form = .other .generic ∨
          ∀ t ∈ triviaAfter source' pointer.start, t.kind ≠ .comment) := by
  have htarget := Source.File.isEmbeddable_of_embedded hd hembedded
  have hcommented := Source.File.commented_of_pointer hd' hnamed hpointer
  rcases field_value_mem_model ctx hd hembedded with ⟨s, hs, -, hvalue⟩
  rcases field_value_mem_model ctx hd' hnamed with ⟨s', hs', -, hvalue'⟩
  refine ⟨htarget, ⟨s, hs, hvalue⟩, field_diagnostics_subset ctx hd hembedded, ⟨s', hs', hvalue'⟩,
    field_diagnostics_subset ctx hd' hnamed, ?_⟩
  rw [sameType_iff htarget hpointer, hcommented]
  simp

/-- A struct with an embedded and two named pointers to a type. There is a comment behind the star of
the first and of the last. -/
def starredSource : String :=
  "package p\n\n// A is documented.\n" ++
    "type A struct \x7b\n\t*/* c */T\n\tX * T\n\tY */* c */T\n\x7d\n"

def starredTarget : TypeExpr := ⟨⟨56, 4, 9⟩, "T", .name "T"⟩

def spacedPointer : TypeExpr := ⟨⟨61, 5, 3⟩, "* T", .pointer false (.name "T")⟩

def commentedPointer : TypeExpr := ⟨⟨68, 6, 3⟩, "*/* c */T", .pointer true (.name "T")⟩

def starredStruct : Documented Source.Field :=
  { name := "A", start := ⟨38, 3, 7⟩, docs := ["// A is documented."]
    body := [.embedded true starredTarget none, .named "X" [] spacedPointer none,
      .named "Y" [] commentedPointer none] }

/-- The struct has an embedded pointer and two named ones, with a blank and with a comment behind the
star. -/
theorem documentedStructs_starredSource :
    (Source.File.parse starredSource).documentedStructs = [starredStruct] := by
  decide +kernel

/-- The blank makes no difference; the comment does. -/
theorem pointerFields_agree_iff_uncommented_starredSource :
    (Source.File.parse starredSource).documentedStructs = [starredStruct] ∧
      SameType (field "A" (.embedded true starredTarget none))
        (field "A" (.named "X" [] spacedPointer none)) ∧
      ¬ SameType (field "A" (.embedded true starredTarget none))
        (field "A" (.named "Y" [] commentedPointer none)) := by
  have hstruct : starredStruct ∈ (Source.File.parse starredSource).documentedStructs := by
    rw [documentedStructs_starredSource]
    exact List.mem_singleton_self _
  have hembedded : .embedded true starredTarget none ∈ starredStruct.body := by decide
  have hspaced : .named "X" [] spacedPointer none ∈ starredStruct.body := by decide
  have hcommented : .named "Y" [] commentedPointer none ∈ starredStruct.body := by decide
  rcases pointerFields_agree_iff_uncommented ⟨"", "", ""⟩ hstruct hembedded hstruct hspaced rfl with
    ⟨-, -, -, -, -, hagree⟩
  rcases pointerFields_agree_iff_uncommented ⟨"", "", ""⟩ hstruct hembedded hstruct hcommented rfl
    with ⟨-, -, -, -, -, hdiffer⟩
  have hblank : (triviaAfter starredSource spacedPointer.start).all (·.kind != .comment) = true := by
    decide +kernel
  have hcomment :
      (triviaAfter starredSource commentedPointer.start).all (·.kind != .comment) = false := by
    decide +kernel
  refine ⟨documentedStructs_starredSource, hagree.2 (Or.inr ?_), ?_⟩
  · simpa using hblank
  · intro hsame
    rcases hdiffer.1 hsame with hgeneric | hfree
    · simp [starredTarget] at hgeneric
    · have hall :
          (triviaAfter starredSource commentedPointer.start).all (·.kind != .comment) = true := by
        simpa using hfree
      simp [hall] at hcomment

/-- A comment behind the star of a named field hides the target, while that of an embedded field is
found all the same. -/
theorem pointerFields_differ_behind_comment :
    ¬ ∀ (source : String) (d : Documented Source.Field) (target pointer : TypeExpr)
        (tag tag' : Option TagLiteral) (first : String) (more : List String) (commented : Bool),
        d ∈ (Source.File.parse source).documentedStructs →
        .embedded true target tag ∈ d.body → .named first more pointer tag' ∈ d.body →
        target.form.isEmbeddable = true → pointer.form = .pointer commented target.form →
        SameType (field d.name (.embedded true target tag))
          (field d.name (.named first more pointer tag')) := by
  intro hclaim
  have hsame := hclaim starredSource starredStruct starredTarget commentedPointer none none "Y" []
    true (by simp [documentedStructs_starredSource]) (by decide) (by decide) rfl rfl
  have htypeName : (field "A" (.embedded true starredTarget none)).value.typeName =
      (field "A" (.named "Y" [] commentedPointer none)).value.typeName := hsame.typeName
  revert htypeName
  decide

end Extract
end GoSurvey
