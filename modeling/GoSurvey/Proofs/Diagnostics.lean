import GoSurvey.Proofs.MethodAttachment

/-!
# What the survey of a file reports

Diagnostics are raised in two passes and at several places of each. This file lists the parts of a
file that are looked at (its checks) from the outline alone, and shows that the diagnostics of a
model are the reports of these checks, each once and in order.

* `Extract.Check`, `Extract.Check.report?` — a type or tag that is looked at, and its diagnostic if
  the type is unsupported or the tag malformed;
* `Extract.entryChecks` — the checks of a documented type: fields, and methods of interfaces;
* `Extract.callableChecks` — the checks of functions and of methods of reported structs;
* `Extract.diagnostics_eq_reports` — the diagnostics of a model.
-/

namespace GoSurvey

def Source.Sibling.values {α : Type} (siblings : List (Sibling α)) : List α :=
  siblings.filterMap fun
    | .comment _ => none
    | .item _ _ value => some value

/-- Finding doc blocks leaves the items as they are. -/
theorem Source.Sibling.map_fst_documentedFrom {α : Type} (before siblings : List (Sibling α)) :
    (documentedFrom before siblings).map Prod.fst = values siblings := by
  induction siblings generalizing before with
  | nil => rfl
  | cons s rest ih =>
      cases s with
      | comment c => simpa [documentedFrom, values] using ih _
      | item startRow endRow value => simpa [documentedFrom, values] using ih _

theorem Source.Sibling.fst_mem_values {α : Type} {siblings : List (Sibling α)}
    {d : α × List String} (hd : d ∈ documented siblings) : d.1 ∈ values siblings := by
  rw [← map_fst_documentedFrom [] siblings]
  exact List.mem_map_of_mem hd

/-- Doc blocks apart, an entry is one of a type declaration of the list. -/
theorem Source.Sibling.exists_types_of_mem_entriesWithDocs {items : List (Sibling Decl)}
    {entry : TypeDecl × List String} (h : entry ∈ Extract.entriesWithDocs (documented items)) :
    ∃ entries, Decl.types entries ∈ values items ∧ entry.1 ∈ values entries := by
  rcases List.mem_flatMap.1 h with ⟨⟨decl, docs⟩, hdecl, hentry⟩
  cases decl with
  | types entries =>
      rcases List.mem_map.1 hentry with ⟨⟨value, own⟩, hvalue, rfl⟩
      have hfirst : value ∈ values entries := fst_mem_values hvalue
      exact ⟨entries, fst_mem_values hdecl, hfirst⟩
  | _ => simp at hentry

namespace Extract

open Model Source

/-! ## Checks -/

/-- A part of a declaration that may have to be reported. -/
inductive Check where
  | type (subject : Subject) (place : Place) (shape : TypeShape)
  | tag (subject : Subject) (literal : TagLiteral)

/-- The diagnostic of a check: of a type if its shape is unsupported, of a tag if its literal cannot
be read or its payload not decoded. -/
def Check.report? : Check → Option Diagnostic
  | .type subject place (.unsupported kind text) =>
      some ⟨subject.owner, subject.item, .ofPlace place, (UnsupportedType.mk kind text).message⟩
  | .type _ _ _ => none
  | .tag subject literal =>
      match (Tag.payload literal.text).bind Tag.decode with
      | .ok _ => none
      | .error e => some ⟨subject.owner, subject.item, .ofPlace literal.start, e.message⟩

/-- The type and then the tag of a field. An embedded field with a star has a pointer type, and is
named by its type. -/
def fieldChecks (structName : String) : Source.Field → List Check
  | .named first _ type tag =>
      .type ⟨structName, first⟩ type.start (.ofExpr type)
        :: tag.toList.map (.tag ⟨structName, first⟩)
  | .embedded star type tag =>
      let shape := if star then (TypeShape.ofExpr type).toPointer else .ofExpr type
      let name := shape.baseName?.getD type.text
      .type ⟨structName, name⟩ type.start shape :: tag.toList.map (.tag ⟨structName, name⟩)

/-- The type of an item of a parameter list, counted by its index if it has no name. A variadic item
is unsupported whatever its type. -/
def paramCheck (label : String) (item : ParamItem) (index : Nat) : Check :=
  if item.variadic then
    .type ⟨label, itemLabel item index⟩ item.start
      (.unsupported "variadic" ("..." ++ item.type.text))
  else .type ⟨label, itemLabel item index⟩ item.type.start (.ofExpr item.type)

/-- The type of an item of a result list, counted by the results before it if it has no name. -/
def resultCheck (label : String) (item : ParamItem) (count : Nat) : Check :=
  .type ⟨label, itemLabel item count⟩ item.type.start (.ofExpr item.type)

/-- How many results items stand for: one for each name, and one for an item without a name. -/
def resultCount : List ParamItem → Nat
  | [] => 0
  | item :: rest => max 1 item.names.length + resultCount rest

def resultChecks (label : String) : ResultSpec → List Check
  | .absent => []
  | .single type => [.type ⟨label, "#0"⟩ type.start (.ofExpr type)]
  | .list items =>
      items.zipIdx.map fun (item, index) =>
        resultCheck label item (resultCount (items.take index))

def signatureChecks (owner name : String) (s : Signature) : List Check :=
  (s.params.zipIdx.map fun (item, index) => paramCheck (callableLabel owner name) item index)
    ++ resultChecks (callableLabel owner name) s.result

def elementChecks (interfaceName : String) : Element → List Check
  | .method name s => signatureChecks interfaceName name s
  | .constraint => []

/-- The fields of a documented struct, or the methods of a documented interface. -/
def entryChecks : TypeDecl × List String → List Check
  | (.spec name (.struct _ fields), _ :: _) => fields.flatMap (fieldChecks name)
  | (.spec name (.interface _ elements), _ :: _) =>
      (Sibling.values elements).flatMap (elementChecks name)
  | _ => []

/-- A function, or a method whose receiver names one of the reported structs. -/
def callableChecks (reported : List String) : Decl → List Check
  | .function _ name s => signatureChecks name name s
  | .method receiver name s =>
      match receiverName? receiver with
      | some owner => if owner ∈ reported then signatureChecks owner name s else []
      | none => []
  | _ => []

def reports (checks : List Check) : List Diagnostic :=
  checks.filterMap Check.report?

@[simp] theorem reports_nil : reports [] = [] := rfl

@[simp] theorem reports_cons (c : Check) (checks : List Check) :
    reports (c :: checks) = c.report?.toList ++ reports checks := by
  cases h : c.report? <;> simp [reports, h]

@[simp] theorem reports_append (checks checks' : List Check) :
    reports (checks ++ checks') = reports checks ++ reports checks' := by
  simp [reports]

@[simp] theorem reports_flatMap {α : Type} (f : α → List Check) (l : List α) :
    reports (l.flatMap f) = l.flatMap fun a => reports (f a) := by
  simp [reports, List.filterMap_flatMap]

/-! ## Types and tags -/

/-- Resolving a shape raises one diagnostic if it is unsupported, and none otherwise. -/
theorem diagnostics_resolve (subject : Subject) (place : Place) (shape : TypeShape) :
    (resolve subject place shape).diagnostics = (Check.type subject place shape).report?.toList := by
  cases shape <;> rfl

/-- Decoding a tag raises one diagnostic if it is malformed, and none otherwise. -/
theorem diagnostics_tags (subject : Subject) (tag : Option TagLiteral) :
    (tags subject tag).diagnostics = reports (tag.toList.map (.tag subject)) := by
  cases tag with
  | none => rfl
  | some literal =>
      cases hread : (Tag.payload literal.text).bind Tag.decode with
      | ok tag => simp [tags, Tag.ofLiteral, Check.report?, hread]
      | error e => simp [tags, Tag.ofLiteral, Check.report?, hread, report, Noted.note]

/-- A field is checked by its type and then by its tag. -/
theorem diagnostics_field (structName : String) (f : Source.Field) :
    (field structName f).diagnostics = reports (fieldChecks structName f) := by
  cases f with
  | named first more type tag =>
      simp [field, fieldParts, fieldChecks, diagnostics_resolve, diagnostics_tags]
  | embedded star type tag =>
      simp [field, fieldParts, fieldChecks, diagnostics_resolve, diagnostics_tags]

/-! ## Signatures -/

/-- The items of a parameter list are checked in order, each counted by its index. -/
theorem diagnostics_params (label funcName : String) (first : Nat) (items : List ParamItem) :
    (params label funcName first items).diagnostics =
      reports ((items.zipIdx first).map fun (item, index) => paramCheck label item index) := by
  induction items generalizing first with
  | nil => rfl
  | cons item rest ih =>
      have hitem : (paramType ⟨label, itemLabel item first⟩ item).diagnostics =
          (paramCheck label item first).report?.toList := by
        by_cases hvariadic : item.variadic = true
        · simp [paramType, paramCheck, hvariadic, diagnostics_resolve]
        · simp [paramType, paramCheck, hvariadic, diagnostics_resolve, resolveExpr]
      simp [params, ih, hitem]

/-- The items of a result list are checked in order, each counted by the entries before it. -/
theorem diagnostics_resultList (label funcName : String) (count : Nat) (items : List ParamItem) :
    (resultList label funcName count items).diagnostics =
      reports (items.zipIdx.map fun (item, index) =>
        resultCheck label item (count + resultCount (items.take index))) := by
  induction items generalizing count with
  | nil => rfl
  | cons item rest ih =>
      -- An item without names makes one entry, any other one for each name.
      have hentries :
          (if item.names.isEmpty then [none] else item.names.map some).length =
            max 1 item.names.length := by
        cases hnames : item.names with
        | nil => rfl
        | cons name names => simp
      have hitem : (resolveExpr ⟨label, itemLabel item count⟩ item.type).diagnostics =
          (resultCheck label item count).report?.toList := by
        simp [resolveExpr, resultCheck, diagnostics_resolve]
      -- The indices of the rest are counted from one here, those of the hypothesis from zero.
      simp only [resultList, Noted.diagnostics_bind, Noted.diagnostics_pure, List.append_nil, ih,
        hitem, hentries, List.zipIdx_cons, Nat.zero_add, List.zipIdx_succ, List.map_cons,
        List.map_map, Function.comp_def, List.take_zero, List.take_succ_cons, resultCount,
        reports_cons, Nat.add_assoc]
      rfl

theorem diagnostics_results (label funcName : String) (result : ResultSpec) :
    (results label funcName result).diagnostics = reports (resultChecks label result) := by
  cases result with
  | absent => rfl
  | single type => simp [results, resultChecks, resolveExpr, diagnostics_resolve]
  | list items => simp [results, resultChecks, diagnostics_resultList]

/-- A callable is checked by its parameters and then by its results. -/
theorem diagnostics_signature (owner name : String) (s : Signature) :
    (signature owner name s).diagnostics = reports (signatureChecks owner name s) := by
  simp [signature, signatureChecks, diagnostics_params, diagnostics_results]

theorem diagnostics_method (ctx : Context) (owner name : String) (comments : List String)
    (s : Signature) :
    (method ctx owner name comments s).diagnostics = reports (signatureChecks owner name s) := by
  simp [method, diagnostics_signature]

/-! ## The first pass -/

/-- The methods of an interface are checked in source order. -/
theorem diagnostics_interface (ctx : Context) (name : String) (start : Place)
    (comments : List String) (elements : List (Sibling Element)) :
    (interface ctx name start comments elements).diagnostics =
      reports ((Sibling.values elements).flatMap (elementChecks name)) := by
  have hvalues : Sibling.values elements = (Sibling.documented elements).map Prod.fst :=
    (Sibling.map_fst_documentedFrom [] elements).symm
  simp only [interface, methodElements, Noted.diagnostics_bind, Noted.diagnostics_each,
    Noted.diagnostics_pure, List.append_nil, hvalues, reports_flatMap, List.flatMap_map]
  -- Elements that are no methods have no checks.
  induction Sibling.documented elements with
  | nil => rfl
  | cons e rest ih =>
      rcases e with ⟨element, docs⟩
      cases element with
      | method m s => simpa [elementChecks, diagnostics_method] using ih
      | constraint => simpa [elementChecks] using ih

/-- A type is checked if it has a doc block, and not otherwise. -/
theorem diagnostics_typeEntry (ctx : Context) (docs : List String) (entry : TypeDecl) :
    (typeEntry ctx docs entry).diagnostics = reports (entryChecks (entry, docs)) := by
  cases entry with
  | synonym name => rfl
  | spec name body =>
      cases docs with
      | nil =>
          cases body <;> rfl
      | cons doc docs =>
          cases body with
          | struct start fields =>
              simp [typeEntry, struct, entryChecks, diagnostics_field]
          | interface start elements =>
              simp [typeEntry, entryChecks, diagnostics_interface]
          | other => rfl

/-! ## The second pass -/

section Callables

variable {reported : List String} {receiver : List ParamItem}

/-- A method of a reported struct is checked. -/
theorem callableChecks_of_receiverNames {owner : String} (hnames : ReceiverNames receiver owner)
    (hmem : owner ∈ reported) (name : String) (s : Signature) :
    callableChecks reported (.method receiver name s) = signatureChecks owner name s := by
  have hname := receiverName?_eq_some_iff.2 hnames
  simp [callableChecks, hname, hmem]

/-- A method of no reported struct is passed over without a check. -/
theorem callableChecks_eq_nil (hnone : ∀ owner ∈ reported, ¬ ReceiverNames receiver owner)
    (name : String) (s : Signature) : callableChecks reported (.method receiver name s) = [] := by
  cases hname : receiverName? receiver with
  | none => simp [callableChecks, hname]
  | some owner =>
      have hnot : owner ∉ reported := fun hmem =>
        hnone owner hmem (receiverName?_eq_some_iff.1 hname)
      simp [callableChecks, hname, hnot]

end Callables

/-- The pass reports the checks of every function, and of every method whose owner is among the
structs. -/
theorem diagnostics_callables (ctx : Context) {index : NameIndex}
    (decls : List (Decl × List String)) {structs : List Struct}
    (h : index.Locates (structs.map (·.name))) :
    (callables ctx index decls structs).diagnostics =
      reports ((decls.map Prod.fst).flatMap (callableChecks (structs.map (·.name)))) := by
  induction decls generalizing structs with
  | nil => rfl
  | cons d rest ih =>
      rcases d with ⟨decl, comments⟩
      simp only [List.map_cons, List.flatMap_cons, reports_append]
      cases decl with
      | method receiver name sig =>
          rcases targets?_cases h receiver with ⟨owner, hnames, hmem, htargets⟩ | ⟨hnone, htargets⟩
          · -- One walk through the signature, however many structs the method is added to.
            have hchecks := callableChecks_of_receiverNames hnames hmem name sig
            simp only [callables, htargets, Noted.diagnostics_bind, diagnostics_method,
              ih (h.attach _ _), names_attach, hchecks]
          -- A receiver that names no struct: neither side looks at the method.
          · have hchecks : callableChecks (structs.map (·.name)) (.method receiver name sig) = [] :=
              callableChecks_eq_nil hnone name sig
            simp only [callables, htargets, ih h, hchecks, reports_nil, List.nil_append]
      | function start name sig =>
          have hchecks : callableChecks (structs.map (·.name)) (.function start name sig) =
              signatureChecks name name sig := rfl
          simp [callables, function, ih h, diagnostics_signature, hchecks]
      | package name => exact ih h
      | types entries => exact ih h
      | other => exact ih h

/-! ## The model of a file -/

/-- The diagnostics of a file with a comment: for the documented types in source order their fields,
or their methods, in order; then for the functions, and the methods of reported structs, in source
order their parameters and then their results. Each check is reported at most once, and exactly if
the type is unsupported or the tag malformed. -/
theorem diagnostics_eq_reports (ctx : Context) (file : Source.File)
    (hcomment : file.hasComment = true) :
    (model ctx file).diagnostics =
      ((entriesWithDocs (Sibling.documented file.items)).flatMap entryChecks ++
        (Sibling.values file.items).flatMap
          (callableChecks ((model ctx file).structs.map (·.name)))).filterMap Check.report? := by
  have hvalues : Sibling.values file.items = (Sibling.documented file.items).map Prod.fst :=
    (Sibling.map_fst_documentedFrom [] file.items).symm
  -- The second pass changes no name, so the structs it looks up are those of the model.
  have hnames : (model ctx file).structs.map (·.name) =
      (structs (types ctx (Sibling.documented file.items)).value).map (·.name) := by
    simp [structs_model, hcomment, annotate]
  have hdiagnostics : (model ctx file).diagnostics =
      (types ctx (Sibling.documented file.items)).diagnostics ++
        (callables ctx (structIndex (structs (types ctx (Sibling.documented file.items)).value))
          (Sibling.documented file.items)
          (structs (types ctx (Sibling.documented file.items)).value)).diagnostics := by
    simp [model, hcomment, declarations]
  rw [hdiagnostics, diagnostics_types, diagnostics_callables ctx _ (locates_structIndex _), hnames,
    hvalues]
  simp [reports, List.filterMap_flatMap, diagnostics_typeEntry]

/-- A file with two structs of one name, a field with two faults, a method of both structs and a
function with a variadic parameter. -/
def twinStructs : Source.File :=
  let origin : Place := ⟨0, 0, 0⟩
  let slice : TypeExpr := ⟨⟨20, 2, 4⟩, "[]int", .other .slice⟩
  let plain : TypeExpr := ⟨⟨60, 6, 8⟩, "T", .name "T"⟩
  let receiver : ParamItem := ⟨⟨50, 5, 6⟩, ["t"], false, plain⟩
  let docs : Sibling Decl := .comment ⟨"// T.", 0, 0⟩
  { items :=
      [docs,
        .item 1 3 (.types [.item 1 3 (.spec "T" (.struct origin
          [.named "A" [] slice (some ⟨⟨26, 2, 10⟩, "`k`"⟩)]))]),
        .comment ⟨"// T again.", 4, 4⟩,
        .item 5 5 (.types [.item 5 5 (.spec "T" (.struct origin []))]),
        .item 6 6 (.method [receiver] "M" ⟨[], .single slice⟩),
        .item 7 7 (.function origin "F" ⟨[⟨⟨90, 7, 7⟩, ["x"], true, plain⟩], .absent⟩)]
    hidesComment := false }

/-- The method is reported once though it belongs to two structs. -/
theorem diagnostics_twinStructs :
    twinStructs.hasComment = true ∧
      (model ⟨"p", "p", "f.go"⟩ twinStructs).diagnostics =
        [⟨"T", "A", ⟨3, 4, 20⟩, "unsupported type shape `slice_type`: []int"⟩,
          ⟨"T", "A", ⟨3, 10, 26⟩, "malformed tag `k`: missing colon"⟩,
          ⟨"T.M", "#0", ⟨3, 4, 20⟩, "unsupported type shape `slice_type`: []int"⟩,
          ⟨"F", "x", ⟨8, 7, 90⟩, "unsupported type shape `variadic`: ...T"⟩] := by
  refine ⟨by decide, ?_⟩
  rw [diagnostics_eq_reports _ _ (by decide)]
  decide +kernel

end Extract
end GoSurvey
