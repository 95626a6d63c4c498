import GoSurvey.Proofs.DocumentedTypes
import GoSurvey.Proofs.StructIndex

/-!
# Which methods a struct has

The second pass over a file adds each method as it meets it, at the positions that an index of the
structs gives for its receiver's name. This file shows that the outcome is a plain filter of the
method declarations, the same for all structs of one name.

* `Extract.ReceiverNames` — what it means for a receiver list to name a type;
* `Extract.methodOf?` — the method that a declaration contributes to the structs of a name;
* `Extract.targets?_cases` — what the pass does at a method declaration while the index is right;
* `Extract.structs_callables` — the pass as a whole: every struct ends with the methods it had and
  those contributed to its name, in source order;
* `Extract.methods_eq_filterMap_declarations` — the methods in the model of a file.
-/

namespace GoSurvey
namespace Extract

open Model

/-! ## Receivers -/

/-- A receiver list names a type if its first item that is not variadic is the type's bare name,
behind a pointer or not. -/
def ReceiverNames (receiver : List Source.ParamItem) (name : String) : Prop :=
  ∃ item, receiver.find? (!·.variadic) = some item ∧
    (TypeShape.ofExpr item.type = .ident name ∨ TypeShape.ofExpr item.type = .pointerIdent name)

/-- The look-up of the receiver's type returns the name the receiver has by its shape. -/
theorem receiverName?_eq_some_iff {receiver : List Source.ParamItem} {name : String} :
    receiverName? receiver = some name ↔ ReceiverNames receiver name := by
  unfold receiverName? ReceiverNames
  cases hfind : receiver.find? (!·.variadic) with
  | none => simp
  | some item =>
      cases hshape : TypeShape.ofExpr item.type <;> simp [hshape]

instance (receiver : List Source.ParamItem) (name : String) :
    Decidable (ReceiverNames receiver name) :=
  decidable_of_iff (receiverName? receiver = some name) receiverName?_eq_some_iff

/-- A receiver names one struct at most. -/
theorem ReceiverNames.unique {receiver : List Source.ParamItem} {name name' : String}
    (h : ReceiverNames receiver name) (h' : ReceiverNames receiver name') : name = name' := by
  have hsome := receiverName?_eq_some_iff.2 h
  have hsome' := receiverName?_eq_some_iff.2 h'
  exact Option.some.inj (hsome.symm.trans hsome')

/-- A receiver of another package's type, or of a type that is no name, names nothing here. -/
theorem not_receiverNames_of_shape {receiver : List Source.ParamItem}
    (h : ∀ item, receiver.find? (!·.variadic) = some item →
      (∃ package name, TypeShape.ofExpr item.type = .qualified package name) ∨
      (∃ package name, TypeShape.ofExpr item.type = .pointerQualified package name) ∨
      (∃ kind text, TypeShape.ofExpr item.type = .unsupported kind text)) (name : String) :
    ¬ ReceiverNames receiver name := by
  intro hnames
  rcases hnames with ⟨item, hitem, hname⟩
  rcases h item hitem with ⟨_, _, hshape⟩ | ⟨_, _, hshape⟩ | ⟨_, _, hshape⟩
  all_goals simp [hshape] at hname

/-! ## One declaration -/

/-- The method that a declaration contributes to the structs of a name. -/
def methodOf? (ctx : Context) (structName : String) : Source.Decl × List String → Option Method
  | (.method receiver name s, comments) =>
      if ReceiverNames receiver structName then
        let entries := (signature structName name s).value
        some
          { pkg := ctx.pkg, owner := structName, name, comments, params := entries.1,
            results := entries.2 }
      else none
  | _ => none

@[simp] theorem value_method (ctx : Context) (owner name : String) (comments : List String)
    (s : Source.Signature) :
    (method ctx owner name comments s).value =
      { pkg := ctx.pkg, owner, name, comments, params := (signature owner name s).value.1,
        results := (signature owner name s).value.2 } := rfl

theorem methodOf?_eq_some {ctx : Context} {structName : String}
    {d : Source.Decl × List String} {m : Method} (h : methodOf? ctx structName d = some m) :
    ∃ receiver name s, d.1 = .method receiver name s ∧
      m = (method ctx structName name d.2 s).value := by
  rcases d with ⟨decl, comments⟩
  cases decl with
  | method receiver name s =>
      by_cases hnames : ReceiverNames receiver structName
      · rw [methodOf?, if_pos hnames] at h
        exact ⟨receiver, name, s, rfl, (Option.some.inj h).symm⟩
      · simp [methodOf?, hnames] at h
  | _ => simp [methodOf?] at h

/-- What the pass does at a method declaration: it adds the method at all positions of the type that
the receiver names, or passes it over because there is no struct of this name. -/
theorem targets?_cases {index : NameIndex} {names : List String} (h : index.Locates names)
    (receiver : List Source.ParamItem) :
    (∃ owner, ReceiverNames receiver owner ∧ owner ∈ names ∧
        targets? index receiver = some (owner, positionsOf names owner)) ∨
      ((∀ name ∈ names, ¬ ReceiverNames receiver name) ∧ targets? index receiver = none) := by
  cases hname : receiverName? receiver with
  | none =>
      refine Or.inr ⟨?_, by simp [targets?, hname]⟩
      intro name _ hnames
      simp [receiverName?_eq_some_iff.2 hnames] at hname
  | some owner =>
      have hnames := receiverName?_eq_some_iff.1 hname
      by_cases hmem : owner ∈ names
      · exact Or.inl ⟨owner, hnames, hmem, by simp [targets?, hname, h owner, hmem]⟩
      · refine Or.inr ⟨?_, by simp [targets?, hname, h owner, hmem]⟩
        intro name hstruct hnames'
        have hsame : owner = name := hnames.unique hnames'
        exact hmem (hsame ▸ hstruct)

/-! ## The whole pass -/

/-- Every struct ends with the methods that it had and those that the declarations contribute to its
name, in source order. The index only has to be right before the pass. -/
theorem structs_callables (ctx : Context) {index : NameIndex}
    (decls : List (Source.Decl × List String)) {structs : List Struct}
    (h : index.Locates (structs.map (·.name))) :
    (callables ctx index decls structs).value.1 =
      structs.map fun s => withMethods (decls.filterMap (methodOf? ctx s.name)) s := by
  induction decls generalizing structs with
  | nil => simp [callables]
  | cons d rest ih =>
      rcases d with ⟨decl, comments⟩
      cases decl with
      | method receiver name sig =>
          rcases targets?_cases h receiver with ⟨owner, hnames, -, htargets⟩ | ⟨hnone, htargets⟩
          · have hattach := attach_positionsOf (method ctx owner name comments sig).value structs
            simp only [callables, htargets, Noted.value_bind, ih (h.attach _ _)]
            -- The method goes to the structs of its owner's name, and the rest of the pass goes on
            -- from there; for each struct both amount to one entry more at the front.
            rw [value_method] at hattach ⊢
            rw [hattach, List.map_map]
            refine List.map_congr_left ?_
            intro s _
            by_cases howner : s.name = owner
            · subst howner
              simp [methodOf?, hnames]
            · have hother : ¬ ReceiverNames receiver s.name := fun h => howner (h.unique hnames)
              simp [methodOf?, hother, howner]
          · simp only [callables, htargets, ih h]
            refine List.map_congr_left ?_
            intro s hs
            have hother := hnone s.name (List.mem_map_of_mem hs)
            simp [methodOf?, hother]
      | function start name sig => simp [callables, ih h, List.filterMap_cons, methodOf?]
      | package name => simp [callables, ih h, List.filterMap_cons, methodOf?]
      | types entries => simp [callables, ih h, List.filterMap_cons, methodOf?]
      | other => simp [callables, ih h, List.filterMap_cons, methodOf?]

/-! ## The model of a file -/

/-- The structs of a file are the listed ones with their methods attached, then annotated. -/
theorem structs_model (ctx : Context) (file : Source.File) :
    (model ctx file).structs =
      if file.hasComment then
        (structs (types ctx (Source.Sibling.documented file.items)).value).map fun s =>
          annotate (withMethods
            ((Source.Sibling.documented file.items).filterMap (methodOf? ctx s.name)) s)
      else [] := by
  unfold model
  split
  · simp [declarations, structs_callables ctx _ (locates_structIndex _), Function.comp_def]
  · rfl

/-- The methods of a struct depend on its name and on the declarations, not on its position. -/
theorem methods_of_mem_model {ctx : Context} {file : Source.File} {s : Struct}
    (h : s ∈ (model ctx file).structs) :
    s.methods = (Source.Sibling.documented file.items).filterMap (methodOf? ctx s.name) := by
  rw [structs_model] at h
  split at h
  · rcases List.mem_map.1 h with ⟨s₀, hs₀, rfl⟩
    -- The first pass leaves the methods to the second.
    have hnone : s₀.methods = [] := methods_of_mem_types ctx hs₀
    simp [annotate, hnone]
  · simp at h

/-- The methods of a struct are those of the method declarations whose receivers name it, in source
order and wherever they stand; structs of one name have the same methods. A declaration whose
receiver is of another package, is no name, or names no reported struct adds nothing to any: each
struct has the methods that the other declarations give it. -/
theorem methods_eq_filterMap_declarations (ctx : Context) (file : Source.File) :
    (∀ (i : Nat) (s : Struct), (model ctx file).structs[i]? = some s →
      s.methods = (Source.Sibling.documented file.items).filterMap (methodOf? ctx s.name)) ∧
    (∀ s ∈ (model ctx file).structs, ∀ s' ∈ (model ctx file).structs,
      s.name = s'.name → s.methods = s'.methods) ∧
    (∀ (before after : List (Source.Decl × List String)) (receiver : List Source.ParamItem)
      (name : String) (sig : Source.Signature) (docs : List String),
      Source.Sibling.documented file.items =
        before ++ (.method receiver name sig, docs) :: after →
      ((∀ item, receiver.find? (!·.variadic) = some item →
          (∃ package id, TypeShape.ofExpr item.type = .qualified package id) ∨
          (∃ package id, TypeShape.ofExpr item.type = .pointerQualified package id) ∨
          (∃ kind text, TypeShape.ofExpr item.type = .unsupported kind text)) ∨
        ∀ s ∈ (model ctx file).structs, ¬ ReceiverNames receiver s.name) →
      ∀ s ∈ (model ctx file).structs,
        s.methods = (before ++ after).filterMap (methodOf? ctx s.name)) := by
  refine ⟨?_, ?_, ?_⟩
  · intro i s hs
    exact methods_of_mem_model (List.mem_of_getElem? hs)
  · intro s hs s' hs' hname
    rw [methods_of_mem_model hs, methods_of_mem_model hs', hname]
  · intro before after receiver name sig docs hdecls hreceiver s hs
    have hnot : ¬ ReceiverNames receiver s.name := by
      rcases hreceiver with hshape | hnone
      · exact not_receiverNames_of_shape hshape s.name
      · exact hnone s hs
    have hadds : methodOf? ctx s.name (.method receiver name sig, docs) = none := by
      simp [methodOf?, hnot]
    rw [methods_of_mem_model hs, hdecls, List.filterMap_append, List.filterMap_append,
      List.filterMap_cons_none hadds]

end Extract
end GoSurvey
