import Mathlib.Data.List.Basic
import GoSurvey.Proofs.Diagnostics
import GoSurvey.Proofs.DocComments

/-!
# Which declarations a survey reports

A survey makes two passes over a file, and none if there is no comment in it. This file says what
comes out of both in terms of the declarations alone.

* `File.hasComment_parse` — the outline of a text knows of a comment exactly if one of the tokens is
  one, wherever it stands;
* `File.documentedStructs`, `File.documentedInterfaces` — the types with a doc block, in source
  order;
* `Extract.structs_model_eq_map`, `Extract.interfaces_model_eq_map`,
  `Extract.funcs_model_eq_filterMap` — the model of a file, list by list;
* `Extract.model_lists_documented_declarations` — what is reported, and by which names, places and
  comments.
-/

namespace GoSurvey
namespace Source

/-! ## Comments of a text -/

def Token.FreeOfComments (ts : List Token) : Prop :=
  ∀ t ∈ ts, t.kind ≠ .comment

theorem Token.FreeOfComments.mono {ts us : List Token} (h : FreeOfComments us) (hsub : ts ⊆ us) :
    FreeOfComments ts :=
  fun t ht => h t (hsub ht)

namespace Passage

/-- A passage without comments has none behind its first pieces. -/
theorem freeOfComments_drop {p : Passage} (h : Token.FreeOfComments p.tokens) (n : Nat) :
    Token.FreeOfComments (p.drop n).tokens :=
  h.mono (p.tokens_drop_sublist n).subset

theorem freeOfComments_lead {p : Passage} (h : Token.FreeOfComments p.tokens) :
    Token.FreeOfComments ((p.pieces.head?.map Piece.lead).getD []) := by
  cases hpieces : p.pieces with
  | nil => simp [Token.FreeOfComments]
  | cons piece later =>
      refine h.mono ?_
      rw [tokens, hpieces, List.flatMap_cons, Piece.tokens, List.append_assoc]
      exact List.subset_append_left piece.lead _

/-- A passage without comments has none between its brackets. -/
theorem freeOfComments_body {p : Passage} {s : String} {body : List Token}
    (h : Token.FreeOfComments p.tokens) (hbody : p.body? s = some body) :
    Token.FreeOfComments body := by
  rcases body?_eq_some hbody with ⟨piece, later, -, hsub⟩
  exact h.mono ((List.sublist_append_right piece.lead body).trans hsub).subset

end Passage

namespace Sibling

variable {α : Type} {inside : α → Bool} {ts : List Token}

theorem comments_eq_nil (h : Token.FreeOfComments ts) : (comments ts : List (Sibling α)) = [] := by
  have hnone : ts.filter (·.kind == .comment) = [] :=
    List.filter_eq_nil_iff.2 fun t ht => by simpa using h t ht
  simp [comments, hnone]

theorem hasComment_false_eq_isComment : hasComment (fun _ : α => false) = isComment := by
  funext s
  cases s with
  | comment c => rfl
  | item startRow endRow value => rfl

theorem any_hasComment_ofPieces (ps : List Piece) {value : α} (hvalue : inside value = false) :
    (ofPieces ps value).any (hasComment inside) = false := by
  unfold ofPieces
  split
  · simpa [hasComment] using hvalue
  · rfl

/-- A passage without comment tokens is read as entries without comments, if no reader of an entry
makes one up. -/
theorem any_hasComment_readPassage {size : List Mark → Nat} {read : Passage → α}
    (hread : ∀ p : Passage, Token.FreeOfComments p.tokens → inside (read p) = false)
    {ps : List Piece} {ms : List Mark} (hts : Token.FreeOfComments (ps.flatMap Piece.tokens)) :
    (readPassage size read ps ms).any (hasComment inside) = false := by
  fun_induction readPassage size read ps ms with
  | case1 => rfl
  | case2 p ps ms n entry ihTerminated ih =>
      have hlead : Token.FreeOfComments p.lead :=
        hts.mono (List.subset_append_of_subset_left _ (List.subset_append_left _ _))
      have hentry : Token.FreeOfComments (entry.flatMap Piece.tokens) :=
        hts.mono ((List.take_sublist n (p :: ps)).flatMap Piece.tokens).subset
      have hrest : Token.FreeOfComments ((ps.drop (n - 1)).flatMap Piece.tokens) :=
        hts.mono (((List.drop_sublist (n - 1) ps).cons p).flatMap Piece.tokens).subset
      -- Neither what stands before the entry nor the entry has a comment; the rest is left.
      rw [List.any_append, List.any_append, comments_eq_nil hlead,
        any_hasComment_ofPieces entry (hread ⟨entry, ms.take n⟩ hentry)]
      split
      next => rfl
      next q qs hdrop =>
        rw [hdrop] at hrest
        split
        · -- A terminator belongs to no entry, but comments may stand before it.
          have hterminator : Token.FreeOfComments q.lead :=
            hrest.mono (List.subset_append_of_subset_left _ (List.subset_append_left _ _))
          have hafter : Token.FreeOfComments (qs.flatMap Piece.tokens) :=
            hrest.mono (List.subset_append_right _ _)
          rw [comments_eq_nil hterminator]
          exact ihTerminated q qs hdrop hafter
        · exact ih q qs hdrop hrest

/-- A list read from tokens without comments has no comment, if no entry has one. -/
theorem any_hasComment_readAll {size : Nat → List Mark → Nat} {read : Passage → α}
    (hread : ∀ p : Passage, Token.FreeOfComments p.tokens → inside (read p) = false)
    (hts : Token.FreeOfComments ts) :
    (readAll size read ts).any (hasComment inside) = false := by
  rw [← Pieces.tokens_ofTokens ts] at hts
  have hlist := hts.mono (List.subset_append_left _ _)
  have htrailing := hts.mono (List.subset_append_right _ _)
  rw [readAll, List.any_append, any_hasComment_readPassage hread hlist, comments_eq_nil htrailing]
  rfl

/-- The comments before a bracketed group, and the entries inside of it. -/
theorem any_hasComment_body {size : Nat → List Mark → Nat} {read : Passage → α}
    (hread : ∀ p : Passage, Token.FreeOfComments p.tokens → inside (read p) = false) {p : Passage}
    {s : String} {body : List Token} (hbody : p.body? s = some body)
    (hts : Token.FreeOfComments p.tokens) :
    (comments ((p.pieces.head?.map Piece.lead).getD []) ++ readAll size read body).any
      (hasComment inside) = false := by
  rw [comments_eq_nil (Passage.freeOfComments_lead hts)]
  exact any_hasComment_readAll hread (Passage.freeOfComments_body hts hbody)

end Sibling

/-- A type read from tokens without comments has none among its methods. -/
theorem TypeDecl.hasComment_spec (name : String) {p : Passage}
    (hts : Token.FreeOfComments p.tokens) :
    (TypeDecl.spec name (TypeBody.read p)).hasComment = false := by
  simp only [TypeBody.read]
  split
  next => rfl
  next body hbody =>
    split
    · rfl
    · split
      · rw [TypeDecl.hasComment, ← Sibling.hasComment_false_eq_isComment]
        exact Sibling.any_hasComment_body (fun _ _ => rfl) hbody (Passage.freeOfComments_drop hts 1)
      · rfl

/-- An entry read from tokens without comments has none inside. -/
theorem TypeDecl.hasComment_read {p : Passage} (hts : Token.FreeOfComments p.tokens) :
    (TypeDecl.read p).hasComment = false := by
  simp only [TypeDecl.read]
  split
  · rfl
  · split
    · rfl
    · exact hasComment_spec _ (Passage.freeOfComments_drop (Passage.freeOfComments_drop hts 1) _)

/-- A type declaration read from tokens without comments has none inside. -/
theorem Decl.hasComment_readTypes {p : Passage} (hts : Token.FreeOfComments p.tokens) :
    (readTypes p).hasComment = false := by
  simp only [readTypes]
  split
  next body hbody =>
    exact Sibling.any_hasComment_body (fun _ => TypeDecl.hasComment_read) hbody hts
  next =>
    rw [Decl.hasComment, Sibling.comments_eq_nil (Passage.freeOfComments_lead hts)]
    exact Sibling.any_hasComment_ofPieces _ (TypeDecl.hasComment_read hts)

theorem Decl.hasComment_read {p : Passage} (hts : Token.FreeOfComments p.tokens) :
    (Decl.read p).hasComment = false := by
  simp only [Decl.read]
  split
  · cases (p.drop 1).word? with
    | none => rfl
    | some name => rfl
  · exact hasComment_readTypes (Passage.freeOfComments_drop hts 1)
  · simp only [readFunction]
    split
    · rfl
    · split
      · rfl
      · rfl
  · rfl

/-- The outline of a text knows of a comment exactly if one of the tokens is one. -/
theorem File.hasComment_parse (source : String) :
    (File.parse source).hasComment = (Token.scan source.toList).any (·.kind == .comment) := by
  simp only [File.hasComment, File.parse]
  cases hcomment : (Token.scan source.toList).any (·.kind == .comment) with
  | true => rfl
  | false =>
      have hfree : Token.FreeOfComments (Token.scan source.toList) := by
        simpa [Token.FreeOfComments] using hcomment
      exact Sibling.any_hasComment_readAll (fun _ => Decl.hasComment_read) hfree

/-! ## Documented types -/

/-- A type with a doc block: its name, where the type itself starts, the doc block, and what stands
between its braces. -/
structure Documented (α : Type) where
  name : String
  start : Place
  docs : List String
  body : List α
deriving DecidableEq

/-- The struct that an entry declares under a doc block. A synonym declares none. -/
def Documented.struct? : TypeDecl × List String → Option (Documented Field)
  | (.spec name (.struct start fields), doc :: docs) => some ⟨name, start, doc :: docs, fields⟩
  | _ => none

def Documented.interface? : TypeDecl × List String → Option (Documented (Sibling Element))
  | (.spec name (.interface start elements), doc :: docs) =>
      some ⟨name, start, doc :: docs, elements⟩
  | _ => none

/-- A documented struct is an entry with a struct for its body, and its docs. -/
theorem Documented.struct?_eq_some {entry : TypeDecl × List String} {d : Documented Field}
    (h : struct? entry = some d) : entry = (.spec d.name (.struct d.start d.body), d.docs) := by
  unfold struct? at h
  split at h
  · obtain rfl := Option.some.inj h
    rfl
  · simp at h

/-- A documented interface is an entry with an interface for its body, and its docs. -/
theorem Documented.interface?_eq_some {entry : TypeDecl × List String}
    {d : Documented (Sibling Element)} (h : interface? entry = some d) :
    entry = (.spec d.name (.interface d.start d.body), d.docs) := by
  unfold interface? at h
  split at h
  · obtain rfl := Option.some.inj h
    rfl
  · simp at h

/-- The structs of a file that have a doc block, in source order. -/
def File.documentedStructs (f : File) : List (Documented Field) :=
  (Extract.entriesWithDocs (Sibling.documented f.items)).filterMap Documented.struct?

/-- The interfaces of a file that have a doc block, in source order. -/
def File.documentedInterfaces (f : File) : List (Documented (Sibling Element)) :=
  (Extract.entriesWithDocs (Sibling.documented f.items)).filterMap Documented.interface?

/-- The name of a field declaration: the first that it declares. An embedded field is named by its
type, or by the text of the type where that is no name. -/
def Field.declaredName : Field → String
  | named first _ _ _ => first
  | embedded star type _ =>
      let shape := TypeShape.ofExpr type
      (if star then shape.toPointer else shape).baseName?.getD type.text

namespace Sibling

variable {α : Type}

/-- A doc block is made of comments among the elements before the item. -/
theorem exists_comment_of_docBlock {before : List (Sibling α)} {row : Nat}
    (h : docBlock before row ≠ []) : ∃ c, comment c ∈ before := by
  cases hattached : attached before row with
  | nil => simp [docBlock, hattached] at h
  | cons c above =>
      rcases attached_eq_cons_iff.1 hattached with ⟨rest, rfl, -, -, -⟩
      exact ⟨c, List.mem_cons_self⟩

/-- Where an item has a doc block, there is a comment. -/
theorem exists_comment_of_mem_documentedFrom {before siblings : List (Sibling α)}
    {d : α × List String} (hd : d ∈ documentedFrom before siblings) (hdocs : d.2 ≠ []) :
    ∃ c, comment c ∈ before ++ siblings := by
  induction siblings generalizing before with
  | nil => simp [documentedFrom] at hd
  | cons s rest ih =>
      -- What has been passed stands in reverse, which does not matter here.
      have hmove : ∀ c, comment c ∈ (s :: before) ++ rest → comment c ∈ before ++ s :: rest := by
        intro c hc
        simpa [or_left_comm] using hc
      cases s with
      | comment c => exact ⟨c, by simp⟩
      | item startRow endRow value =>
          rcases List.mem_cons.1 hd with rfl | hd
          -- The doc block is made of comments that have been passed.
          · rcases exists_comment_of_docBlock hdocs with ⟨c, hc⟩
            exact ⟨c, List.mem_append_left _ hc⟩
          · exact (ih hd).imp hmove

theorem any_hasComment_of_docs {siblings : List (Sibling α)} {d : α × List String}
    (hd : d ∈ documented siblings) (hdocs : d.2 ≠ []) (inside : α → Bool) :
    siblings.any (hasComment inside) = true := by
  rcases exists_comment_of_mem_documentedFrom hd hdocs with ⟨c, hc⟩
  exact List.any_eq_true.2 ⟨comment c, by simpa using hc, rfl⟩

/-- A list with a comment inside of an item holds a comment. -/
theorem any_hasComment_of_inside {siblings : List (Sibling α)} {d : α × List String}
    (hd : d ∈ documented siblings) {inside : α → Bool} (hinside : inside d.1 = true) :
    siblings.any (hasComment inside) = true := by
  rcases List.mem_filterMap.1 (fst_mem_values hd) with ⟨s, hs, hitem⟩
  cases s with
  | comment c => simp at hitem
  | item startRow endRow value =>
      obtain rfl := Option.some.inj hitem
      exact List.any_eq_true.2 ⟨_, hs, hinside⟩

end Sibling

/-- Where an entry has a doc block, its own or that of its declaration, the file has a comment. -/
theorem File.hasComment_of_mem_entriesWithDocs {f : File} {entry : TypeDecl × List String}
    (h : entry ∈ Extract.entriesWithDocs (Sibling.documented f.items)) (hdocs : entry.2 ≠ []) :
    f.hasComment = true := by
  have hitems : f.items.any (Sibling.hasComment Decl.hasComment) = true := by
    rcases List.mem_flatMap.1 h with ⟨⟨decl, docs⟩, hd, hentry⟩
    cases decl with
    | types entries =>
        rcases List.mem_map.1 hentry with ⟨⟨value, own⟩, hvalue, rfl⟩
        cases docs with
        | cons doc docs => exact Sibling.any_hasComment_of_docs hd (List.cons_ne_nil doc docs) _
        | nil =>
            -- The doc block is the entry's own, and stands inside of the declaration.
            have hinside : (Decl.types entries).hasComment = true :=
              Sibling.any_hasComment_of_docs hvalue hdocs TypeDecl.hasComment
            exact Sibling.any_hasComment_of_inside hd hinside
    | _ => simp at hentry
  simp [hasComment, hitems]

section Uncommented

variable {f : File} (h : f.hasComment = false)

include h

/-- In a file without comments no entry has a doc block. -/
theorem File.docs_eq_nil {entry : TypeDecl × List String}
    (hentry : entry ∈ Extract.entriesWithDocs (Sibling.documented f.items)) : entry.2 = [] := by
  by_contra hdocs
  simp [hasComment_of_mem_entriesWithDocs hentry hdocs] at h

theorem File.documentedStructs_eq_nil : f.documentedStructs = [] := by
  refine List.filterMap_eq_nil_iff.2 ?_
  rintro ⟨entry, docs⟩ hentry
  obtain rfl : docs = [] := docs_eq_nil h hentry
  simp [Documented.struct?]

theorem File.documentedInterfaces_eq_nil : f.documentedInterfaces = [] := by
  refine List.filterMap_eq_nil_iff.2 ?_
  rintro ⟨entry, docs⟩ hentry
  obtain rfl : docs = [] := docs_eq_nil h hentry
  simp [Documented.interface?]

end Uncommented

end Source

/-! ## The model, list by list -/

namespace Extract

open Model Source

variable (ctx : Context)

/-- The structs that the first pass finds are the documented structs. -/
theorem structs_types (decls : List (Decl × List String)) :
    structs (types ctx decls).value =
      ((entriesWithDocs decls).filterMap Documented.struct?).map fun d =>
        (struct ctx d.name d.start d.docs d.body).value := by
  rw [value_types, structs, List.filterMap_filterMap, List.map_filterMap]
  refine List.filterMap_congr ?_
  rintro ⟨entry, docs⟩ -
  cases entry with
  | synonym name => rfl
  | spec name body =>
      cases docs with
      | nil => cases body <;> rfl
      | cons doc docs => cases body <;> rfl

/-- The interfaces that the first pass finds are the documented interfaces. -/
theorem interfaces_types (decls : List (Decl × List String)) :
    interfaces (types ctx decls).value =
      ((entriesWithDocs decls).filterMap Documented.interface?).map fun d =>
        (interface ctx d.name d.start d.docs d.body).value := by
  rw [value_types, interfaces, List.filterMap_filterMap, List.map_filterMap]
  refine List.filterMap_congr ?_
  rintro ⟨entry, docs⟩ -
  cases entry with
  | synonym name => rfl
  | spec name body =>
      cases docs with
      | nil => cases body <;> rfl
      | cons doc docs => cases body <;> rfl

def function? : Decl × List String → Option Func
  | (.function start name s, docs) => some (function ctx start name docs s).value
  | _ => none

variable {ctx} in
theorem function?_eq_some {d : Decl × List String} {f : Func} (h : function? ctx d = some f) :
    ∃ start name s, d.1 = .function start name s ∧ f = (function ctx start name d.2 s).value := by
  rcases d with ⟨decl, docs⟩
  cases decl with
  | function start name s => exact ⟨start, name, s, rfl, (Option.some.inj h).symm⟩
  | _ => simp [function?] at h

/-- The second pass gives every function, whatever the structs are. -/
theorem funcs_callables (index : NameIndex) (decls : List (Decl × List String))
    (structs : List Struct) :
    (callables ctx index decls structs).value.2 = decls.filterMap (function? ctx) := by
  induction decls generalizing structs with
  | nil => rfl
  | cons d rest ih =>
      rcases d with ⟨decl, comments⟩
      cases decl with
      | function start name s =>
          simp only [callables, Noted.value_bind, Noted.value_pure, ih]
          rfl
      | method receiver name s =>
          simp only [callables]
          -- A method makes no function, and whether it is attached does not matter.
          split
          · exact ih structs
          · exact ih _
      | _ => exact ih structs

/-! ## The model of a file -/

/-- Leaving out a file without comments changes neither its structs nor its interfaces. -/
theorem model_eq_declarations (file : Source.File) :
    (model ctx file).structs = (declarations ctx (Sibling.documented file.items)).value.1 ∧
      (model ctx file).interfaces =
        (declarations ctx (Sibling.documented file.items)).value.2.1 := by
  cases hcomment : file.hasComment with
  | true => simp [model, hcomment]
  | false =>
      -- No doc block without a comment: the passes that are left out would find no type.
      have hstructs : structs (types ctx (Sibling.documented file.items)).value = [] := by
        rw [structs_types]
        exact List.map_eq_nil_iff.2 (Source.File.documentedStructs_eq_nil hcomment)
      have hinterfaces : interfaces (types ctx (Sibling.documented file.items)).value = [] := by
        rw [interfaces_types]
        exact List.map_eq_nil_iff.2 (Source.File.documentedInterfaces_eq_nil hcomment)
      simp [model, hcomment, emptyModel, declarations,
        structs_callables ctx _ (locates_structIndex _), hstructs, hinterfaces]

/-- Each struct of a model has the fields that it declares, the methods that the file declares on
its name, and the annotations of its doc block. -/
theorem structs_model_eq_map (file : Source.File) :
    (model ctx file).structs = file.documentedStructs.map fun d =>
      { pkg := ctx.pkg, packageName := ctx.packageName, name := d.name
        position := .ofPlace d.start, comments := d.docs
        fields := d.body.map fun f => (field d.name f).value
        methods := (Sibling.documented file.items).filterMap (methodOf? ctx d.name)
        annotations := Annotation.decodeAll ctx.pkg d.name d.docs } := by
  simp [(model_eq_declarations ctx file).1, declarations,
    structs_callables ctx _ (locates_structIndex _), structs_types, Source.File.documentedStructs,
    struct, withMethods, annotate, Function.comp_def]

/-- The interfaces of a model are the documented interfaces of its file. -/
theorem interfaces_model_eq_map (file : Source.File) :
    (model ctx file).interfaces = file.documentedInterfaces.map fun d =>
      (interface ctx d.name d.start d.docs d.body).value := by
  rw [(model_eq_declarations ctx file).2]
  exact interfaces_types ctx (Sibling.documented file.items)

/-- The functions of a model are all functions of its file, if that has a comment at all. -/
theorem funcs_model_eq_filterMap (file : Source.File) :
    (model ctx file).funcs =
      if file.hasComment then (Sibling.documented file.items).filterMap (function? ctx)
      else [] := by
  unfold model
  split
  · simp [declarations, funcs_callables]
  · rfl

theorem name_field (structName : String) (f : Source.Field) :
    (field structName f).value.name = f.declaredName := by
  cases f with
  | named first more type tag => rfl
  | embedded star type tag => rfl

/-- The structs and interfaces of a model are the types with a doc block, in source order and under
their names, with the places of their types and with their doc blocks; a struct has one field for
each field declaration, in order, under its first name. That a file without comments is not looked
at changes nothing about them. The functions are all that the file declares, in source order, if
there is a comment anywhere in the text, and none otherwise. -/
theorem model_lists_documented_declarations (source : String) :
    ((ofSource ctx source).structs.map fun s =>
        (s.name, s.position, s.comments, s.fields.map (·.name))) =
      ((Source.File.parse source).documentedStructs.map fun d =>
        (d.name, .ofPlace d.start, d.docs, d.body.map Source.Field.declaredName)) ∧
    ((ofSource ctx source).interfaces.map fun i => (i.name, i.position, i.comments)) =
      ((Source.File.parse source).documentedInterfaces.map fun d =>
        (d.name, .ofPlace d.start, d.docs)) ∧
    (ofSource ctx source).structs =
      (declarations ctx (Sibling.documented (Source.File.parse source).items)).value.1 ∧
    (ofSource ctx source).interfaces =
      (declarations ctx (Sibling.documented (Source.File.parse source).items)).value.2.1 ∧
    ((ofSource ctx source).funcs.map fun f => (f.name, f.position, f.comments)) =
      if (Token.scan source.toList).any (·.kind == .comment) then
        (Sibling.documented (Source.File.parse source).items).filterMap fun
          | (.function start name _, docs) => some (name, .ofPlace start, docs)
          | _ => none
      else [] := by
  rcases model_eq_declarations ctx (Source.File.parse source) with ⟨hstructs, hinterfaces⟩
  refine ⟨?_, ?_, hstructs, hinterfaces, ?_⟩
  · simp [ofSource, structs_model_eq_map, Function.comp_def, name_field]
  · simp [ofSource, interfaces_model_eq_map, interface, Function.comp_def]
  · rw [ofSource, funcs_model_eq_filterMap, Source.File.hasComment_parse]
    split
    · rw [List.map_filterMap]
      -- Each declaration is looked at for itself; only a function gives an entry.
      refine List.filterMap_congr ?_
      rintro ⟨decl, docs⟩ -
      cases decl <;> rfl
    · rfl

end Extract
end GoSurvey
