import Mathlib.Data.List.Forall2
import GoSurvey.Proofs.DocumentedDeclarations

/-!
# Entries of signatures

Parameters and results go through two loops with counters of their own. This file says what comes out
of both, item by item.

* `Param.AgreesWith` — how a parameter and a result compare;
* `ParamItem.params`, `ParamItem.results` — the entries of one item, on either side;
* `Signature.entries` — those of all items, in order;
* `Extract.value_params`, `Extract.value_results` — the two loops make these entries, whatever they
  count;
* `ParamItem.written_readList` — what counts of an item does not depend on where it stands;
* `Extract.signatures_expand` — the entries of all functions and methods of a model, and how the two
  sides compare.
-/

namespace GoSurvey

namespace Model

/-- What a model tells of a callable: its name, its parameters and its results. -/
structure Entries where
  name : String
  params : List Param
  results : List Result
deriving DecidableEq

def Func.entries (f : Func) : Entries :=
  ⟨f.name, f.params, f.results⟩

def Method.entries (m : Method) : Entries :=
  ⟨m.name, m.params, m.results⟩

/-- Whether a parameter and a result have the same type, and the same name or none. -/
structure Param.AgreesWith (p : Param) (r : Result) : Prop where
  typeName : p.typeName = r.typeName
  pointer : p.pointer = r.pointer
  name : r.name = some p.name ∨ (p.name = "" ∧ r.name = none)

end Model

open Model

/-- The type that a shape resolves to, the empty one if it is unsupported. -/
def TypeShape.resolvedType (shape : TypeShape) : ResolvedType :=
  shape.resolve.toOption.getD Extract.unresolved

namespace Source

/-! ## The entries of an item -/

namespace ParamItem

/-- What an item resolves to among the parameters: a variadic one to the empty type. -/
def paramType (item : ParamItem) : ResolvedType :=
  if item.variadic then Extract.unresolved else (TypeShape.ofExpr item.type).resolvedType

/-- What an item resolves to among the results, variadic or not. -/
def resultType (item : ParamItem) : ResolvedType :=
  (TypeShape.ofExpr item.type).resolvedType

/-- One parameter for each name, or one with an empty name; all of them share one type. -/
def params (funcName : String) (item : ParamItem) : List Param :=
  (if item.names = [] then [""] else item.names).map fun name =>
    ⟨funcName, name, item.paramType.typeName, item.paramType.pointer⟩

/-- One result for each name, or one without a name; all of them share one type. -/
def results (funcName : String) (item : ParamItem) : List Result :=
  (if item.names = [] then [none] else item.names.map some).map fun name =>
    ⟨funcName, name, item.resultType.typeName, item.resultType.pointer⟩

end ParamItem

/-- The items of a result. A type by itself is one without a name. -/
def ResultSpec.items : ResultSpec → List ParamItem
  | absent => []
  | single type => [⟨type.start, [], false, type⟩]
  | list items => items

def Signature.entries (name : String) (s : Signature) : Entries :=
  ⟨name, s.params.flatMap (ParamItem.params name), s.result.items.flatMap (ParamItem.results name)⟩

def Decl.functionEntries? : Decl → Option Entries
  | function _ name s => some (s.entries name)
  | _ => none

/-- The entries of a method that is declared on a type of the name. -/
def Decl.methodEntries? (owner : String) : Decl → Option Entries
  | method receiver name s =>
      if Extract.ReceiverNames receiver owner then some (s.entries name) else none
  | _ => none

def Element.entries? : Element → Option Entries
  | method name s => some (s.entries name)
  | constraint => none

end Source

namespace Extract

open Source

/-! ## The two loops -/

theorem value_resolve (subject : Subject) (place : Place) (shape : TypeShape) :
    (resolve subject place shape).value = shape.resolvedType := by
  cases shape <;> rfl

theorem value_paramType (subject : Subject) (item : ParamItem) :
    (paramType subject item).value = item.paramType := by
  unfold paramType ParamItem.paramType
  split
  · rfl
  · exact value_resolve _ _ _

/-- The index of an item only goes into reports. -/
theorem value_params (label funcName : String) (index : Nat) (items : List ParamItem) :
    (params label funcName index items).value = items.flatMap (ParamItem.params funcName) := by
  induction items generalizing index with
  | nil => rfl
  | cons item rest ih =>
      simp only [params, Noted.value_bind, Noted.value_pure, value_paramType, ih,
        List.flatMap_cons, ParamItem.params, List.isEmpty_iff]

/-- Each item of a result list gives one result for each of its names. -/
theorem value_resultList (label funcName : String) (count : Nat) (items : List ParamItem) :
    (resultList label funcName count items).value =
      items.flatMap (ParamItem.results funcName) := by
  induction items generalizing count with
  | nil => rfl
  | cons item rest ih =>
      simp only [resultList, Noted.value_bind, Noted.value_pure, resolveExpr, value_resolve, ih,
        List.flatMap_cons, ParamItem.results, ParamItem.resultType, List.isEmpty_iff]

theorem value_results (label funcName : String) (result : ResultSpec) :
    (results label funcName result).value = result.items.flatMap (ParamItem.results funcName) := by
  cases result with
  | absent => rfl
  | list items => exact value_resultList label funcName 0 items
  | single type =>
      simp [results, resolveExpr, value_resolve, ResultSpec.items, ParamItem.results,
        ParamItem.resultType]

/-- The two loops give the entries of the signature. -/
theorem value_signature (owner name : String) (s : Signature) :
    (signature owner name s).value = ((s.entries name).params, (s.entries name).results) := by
  simp only [signature, Noted.value_bind, Noted.value_pure, value_params, value_results,
    Signature.entries]

/-! ## The model of a file -/

variable (ctx : Context)

theorem entries_function (start : Place) (name : String) (docs : List String) (s : Signature) :
    (function ctx start name docs s).value.entries = s.entries name := by
  simp only [function, Noted.value_bind, Noted.value_pure, value_signature, Func.entries]
  rfl

theorem entries_method (owner name : String) (docs : List String) (s : Signature) :
    (method ctx owner name docs s).value.entries = s.entries name := by
  simp only [value_method, value_signature, Method.entries]
  rfl

/-- The functions of a model have the entries of the declared ones, in order. -/
theorem entries_funcs (file : Source.File) :
    (model ctx file).funcs.map Func.entries =
      if file.hasComment then (Sibling.values file.items).filterMap Decl.functionEntries?
      else [] := by
  rw [funcs_model_eq_filterMap]
  split
  · rw [← Sibling.map_fst_documentedFrom [] file.items, List.filterMap_map, List.map_filterMap]
    refine List.filterMap_congr ?_
    rintro ⟨decl, docs⟩ -
    cases decl with
    | function start name s => exact congrArg some (entries_function ctx start name docs s)
    | _ => rfl
  · rfl

/-- The methods of a struct have the entries of those declared for it. -/
theorem entries_methods_struct {file : Source.File} {s : Struct}
    (hs : s ∈ (model ctx file).structs) :
    s.methods.map Method.entries =
      (Sibling.values file.items).filterMap (Decl.methodEntries? s.name) := by
  rw [methods_of_mem_model hs, ← Sibling.map_fst_documentedFrom [] file.items, List.filterMap_map,
    List.map_filterMap]
  refine List.filterMap_congr ?_
  rintro ⟨decl, docs⟩ -
  cases decl with
  | method receiver name sig =>
      by_cases hnames : ReceiverNames receiver s.name
      · simpa [methodOf?, Decl.methodEntries?, hnames] using entries_method ctx s.name name docs sig
      · simp [methodOf?, Decl.methodEntries?, hnames]
  | _ => rfl

/-- The methods of an interface have the entries of its elements. -/
theorem entries_methods_interface (name : String) (start : Place) (docs : List String)
    (elements : List (Sibling Element)) :
    (interface ctx name start docs elements).value.methods.map Method.entries =
      (Sibling.values elements).filterMap Element.entries? := by
  simp only [interface, methodElements, Noted.value_bind, Noted.value_pure, Noted.value_each,
    List.map_filterMap]
  rw [← Sibling.map_fst_documentedFrom [] elements, List.filterMap_map]
  refine List.filterMap_congr ?_
  rintro ⟨element, own⟩ -
  cases element with
  | method m s => exact congrArg some (entries_method ctx name m own s)
  | constraint => rfl

end Extract

/-! ## One list on both sides -/

namespace Source

def Token.unplaced (t : Token) : Token :=
  { t with start := Place.origin }

/-- Marks tell nothing of the places of tokens. -/
theorem Marks.ofTokens_unplaced (ts : List Token) :
    ofTokens (ts.map Token.unplaced) = ofTokens ts := by
  rw [ofTokens, List.foldl_map]
  rfl

namespace ParamItem

/-- How an item is written: its names, whether it is variadic, and the form of its type. -/
def written (item : ParamItem) : List String × Bool × TypeForm :=
  (item.names, item.variadic, item.type.form)

theorem written_ofReadings (rs : List ParamReading) (passed : Nat) (p : Passage) :
    (ofReadings passed p rs).map written = rs.map fun r => (r.names, r.variadic, r.type.form) := by
  induction rs generalizing passed p with
  | nil => rfl
  | cons r rs ih => exact congrArg _ (ih _ _)

/-- What is written in a list does not depend on where the list stands. -/
theorem written_readList {ts us : List Token} (h : ts.map Token.unplaced = us.map Token.unplaced) :
    (readList ts).map written = (readList us).map written := by
  have hmarks : Marks.ofTokens ts = Marks.ofTokens us := by
    rw [← Marks.ofTokens_unplaced ts, h, Marks.ofTokens_unplaced]
  simp only [readList, written_ofReadings, Passage.ofTokens, hmarks]

end ParamItem

/-- The form of a type decides what it resolves to; its text only goes into reports. -/
theorem resolvedType_congr {t u : TypeExpr} (h : t.form = u.form) :
    (TypeShape.ofExpr t).resolvedType = (TypeShape.ofExpr u).resolvedType := by
  unfold TypeShape.ofExpr
  rw [h]
  split <;> rfl

namespace ParamItem

variable (funcName funcName' : String)

/-- The two loops agree on an item that is not variadic. -/
theorem forall₂_agreesWith_of_written {item item' : ParamItem} (h : item.written = item'.written)
    (hplain : item.variadic = false) :
    List.Forall₂ Param.AgreesWith (item.params funcName) (item'.results funcName') := by
  simp only [written, Prod.mk.injEq] at h
  -- An item that is not variadic resolves like its type on both sides.
  have htype : item.paramType = item'.resultType := by
    rw [paramType, hplain, resultType, resolvedType_congr h.2.2]
    rfl
  unfold params results
  rw [h.1, htype]
  split
  · -- no name: an empty one on the left, none on the right
    exact .cons ⟨rfl, rfl, Or.inr ⟨rfl, rfl⟩⟩ .nil
  · rw [List.map_map, List.forall₂_map_left_iff, List.forall₂_map_right_iff, List.forall₂_same]
    intro name _
    exact ⟨rfl, rfl, Or.inl rfl⟩

/-- Items that are written alike, none of them variadic, have the same entries on both sides. -/
theorem forall₂_agreesWith {items items' : List ParamItem}
    (h : items.map written = items'.map written) (hplain : ∀ item ∈ items, item.variadic = false) :
    List.Forall₂ Param.AgreesWith (items.flatMap (params funcName))
      (items'.flatMap (results funcName')) := by
  induction items generalizing items' with
  | nil =>
      obtain rfl := List.map_eq_nil_iff.1 h.symm
      exact .nil
  | cons item rest ih =>
      rcases List.map_eq_cons_iff.1 h.symm with ⟨item', rest', rfl, hitem, hrest⟩
      rcases List.forall_mem_cons.1 hplain with ⟨hfirst, hlater⟩
      have hentries := forall₂_agreesWith_of_written funcName funcName' hitem.symm hfirst
      exact List.rel_append hentries (ih hrest.symm hlater)

end ParamItem
end Source

namespace Extract

open Source

/-- The parameters of every reported function and method are the entries of the items of its
parameter list, and its results those of the items of its result. A list without variadic items,
written once between the parentheses of parameters and once between those of results, has the same
entries on both sides. -/
theorem signatures_expand (ctx : Context) (file : Source.File) :
    (model ctx file).funcs.map Func.entries =
      (if file.hasComment then (Sibling.values file.items).filterMap Decl.functionEntries?
      else []) ∧
    (∀ s ∈ (model ctx file).structs, s.methods.map Method.entries =
      (Sibling.values file.items).filterMap (Decl.methodEntries? s.name)) ∧
    ((model ctx file).interfaces.map fun i => i.methods.map Method.entries) =
      (file.documentedInterfaces.map fun d =>
        (Sibling.values d.body).filterMap Element.entries?) ∧
    ∀ (label funcName label' funcName' : String) (ts us : List Token),
      ts.map Token.unplaced = us.map Token.unplaced →
      (∀ item ∈ ParamItem.readList ts, item.variadic = false) →
      List.Forall₂ Param.AgreesWith (params label funcName 0 (ParamItem.readList ts)).value
        (results label' funcName' (.list (ParamItem.readList us))).value := by
  refine ⟨entries_funcs ctx file, fun s hs => entries_methods_struct ctx hs, ?_, ?_⟩
  · rw [interfaces_model_eq_map, List.map_map]
    exact List.map_congr_left fun d _ => entries_methods_interface ctx d.name d.start d.docs d.body
  · intro label funcName label' funcName' ts us hsame hplain
    rw [value_params, value_results]
    exact ParamItem.forall₂_agreesWith _ _ (ParamItem.written_readList hsame) hplain

/-- A source text with a variadic parameter, a variadic result and a result without parentheses. -/
def mixedSignatures : String :=
  "// I.\ntype I interface \x7b M(a, b T, c ...int) (d ...*p.T); N(int, []T) T \x7d\n"

def mixedList (start : Place) : List Token :=
  Token.scanFrom start "a, b int, /* c */ c *p.T, d []int".toList

/-- The interface has a group of names, unnamed parameters and a variadic item on either side. -/
theorem signatures_expand_mixedSignatures :
    ((ofSource ⟨"p", "p", "f.go"⟩ mixedSignatures).interfaces.map fun i =>
        i.methods.map Method.entries) =
      [[⟨"M", [⟨"M", "a", "T", false⟩, ⟨"M", "b", "T", false⟩, ⟨"M", "c", "", false⟩],
          [⟨"M", some "d", "*p.T", true⟩]⟩,
        ⟨"N", [⟨"N", "", "int", false⟩, ⟨"N", "", "", false⟩], [⟨"N", none, "T", false⟩]⟩]] ∧
    (∀ item ∈ ParamItem.readList (mixedList ⟨7, 0, 7⟩), item.variadic = false) ∧
    List.Forall₂ Param.AgreesWith (params "F" "F" 0 (ParamItem.readList (mixedList ⟨7, 0, 7⟩))).value
      (results "G" "G" (.list (ParamItem.readList (mixedList ⟨60, 1, 10⟩)))).value := by
  rcases signatures_expand ⟨"p", "p", "f.go"⟩ (Source.File.parse mixedSignatures) with
    ⟨-, -, hinterfaces, hlists⟩
  have hplain : ∀ item ∈ ParamItem.readList (mixedList ⟨7, 0, 7⟩), item.variadic = false := by
    decide +kernel
  refine ⟨hinterfaces.trans (by decide +kernel), hplain, hlists _ _ _ _ _ _ ?_ hplain⟩
  decide +kernel

end Extract
end GoSurvey
