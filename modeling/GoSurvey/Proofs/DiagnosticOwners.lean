import GoSurvey.Proofs.DeclarationNames
import GoSurvey.Proofs.DocumentedDeclarations
import GoSurvey.Proofs.QuotedText
import GoSurvey.Proofs.TypeTexts

/-!
# Whom diagnostics are attributed to

A diagnostic names its owner by a text. This file goes back from these texts to the declarations:
which of them raises a diagnostic, and which diagnostics have the same owner.

* `Extract.Origin`, `Source.File.raised` — the diagnostics of a file, each with the field, method or
  function that raises it;
* `Extract.diagnostics_raised` — these are the diagnostics of the model;
* `Source.File.allNames_parse` — the names of declarations have the form of words, so that no point
  is in them;
* `Extract.Origin.label_eq_iff` — which declarations share their label with a method;
* `Extract.method_owner_eq_iff` — a method whose name is not that of its owner has diagnostics of its
  own, and the others are labelled like fields and functions.
-/

namespace GoSurvey

open Model

/-! ## Origins -/

namespace Extract

/-- What raises a diagnostic: a field of a struct, or a parameter or result of a method or function. -/
inductive Origin where
  | field (struct : String)
  | method (owner name : String)
  | function (name : String)
deriving DecidableEq

/-- A diagnostic, and what raises it. -/
structure Raised where
  origin : Origin
  diagnostic : Diagnostic
deriving DecidableEq

/-- The diagnostics of a computation, all raised by the same part of a file. -/
def raisedBy {α : Type} (origin : Origin) (x : Noted α) : List Raised :=
  x.diagnostics.map (Raised.mk origin)

open Source

def elementRaised (interfaceName : String) : Element → List Raised
  | .method name s => raisedBy (.method interfaceName name) (signature interfaceName name s)
  | .constraint => []

/-- The diagnostics that a documented type raises by its fields or its methods. -/
def entryRaised : TypeDecl × List String → List Raised
  | (.spec name (.struct _ fields), _ :: _) =>
      fields.flatMap fun f => raisedBy (.field name) (field name f)
  | (.spec name (.interface _ elements), _ :: _) =>
      (Sibling.values elements).flatMap (elementRaised name)
  | _ => []

/-- The diagnostics that a function raises, or a method of one of the reported structs. -/
def callableRaised (reported : List String) : Decl → List Raised
  | .function _ name s => raisedBy (.function name) (signature name name s)
  | .method receiver name s =>
      match receiverName? receiver with
      | some owner =>
          if owner ∈ reported then raisedBy (.method owner name) (signature owner name s) else []
      | none => []
  | _ => []

end Extract

open Extract

/-- The diagnostics of a file in the order in which they are raised. -/
def Source.File.raised (f : Source.File) : List Raised :=
  if f.hasComment then
    (entriesWithDocs (Sibling.documented f.items)).flatMap entryRaised ++
      (Sibling.values f.items).flatMap (callableRaised (f.documentedStructs.map (·.name)))
  else []

namespace Extract

open Source

/-- Telling what raises a diagnostic changes nothing about it. -/
theorem map_diagnostic_raisedBy {α : Type} (origin : Origin) (x : Noted α) :
    (raisedBy origin x).map (·.diagnostic) = x.diagnostics := by
  simp [raisedBy, Function.comp_def]

/-- What an interface element raises are the reports of its checks. -/
theorem diagnostics_elementRaised (interfaceName : String) (element : Element) :
    (elementRaised interfaceName element).map (·.diagnostic) =
      reports (elementChecks interfaceName element) := by
  cases element with
  | method name s => simp [elementRaised, elementChecks, map_diagnostic_raisedBy,
      diagnostics_signature]
  | constraint => rfl

/-- What an entry with its doc block raises are the reports of its checks. -/
theorem diagnostics_entryRaised (entry : TypeDecl × List String) :
    (entryRaised entry).map (·.diagnostic) = reports (entryChecks entry) := by
  rcases entry with ⟨decl, docs⟩
  cases decl with
  | synonym name => rfl
  | spec name body =>
      cases docs with
      | nil => cases body <;> rfl
      | cons doc docs =>
          cases body with
          | struct start fields =>
              simp [entryRaised, entryChecks, List.map_flatMap, map_diagnostic_raisedBy,
                diagnostics_field]
          | interface start elements =>
              simp [entryRaised, entryChecks, List.map_flatMap, diagnostics_elementRaised]
          | other => rfl

/-- What a function or method raises are the reports of its checks, and a method of no reported
struct raises nothing. -/
theorem diagnostics_callableRaised (reported : List String) (decl : Decl) :
    (callableRaised reported decl).map (·.diagnostic) = reports (callableChecks reported decl) := by
  cases decl with
  | function start name s =>
      simp [callableRaised, callableChecks, map_diagnostic_raisedBy, diagnostics_signature]
  | method receiver name s =>
      cases hreceiver : receiverName? receiver with
      | none => simp [callableRaised, callableChecks, hreceiver]
      | some owner =>
          by_cases hreported : owner ∈ reported
          · simp [callableRaised, callableChecks, hreceiver, hreported, map_diagnostic_raisedBy,
              diagnostics_signature]
          · simp [callableRaised, callableChecks, hreceiver, hreported]
  | _ => rfl

/-- No diagnostic of a model is left out, and none is attributed twice. -/
theorem diagnostics_raised (ctx : Context) (file : Source.File) :
    file.raised.map (·.diagnostic) = (model ctx file).diagnostics := by
  unfold Source.File.raised model
  split
  · have hnames : (structs (types ctx (Sibling.documented file.items)).value).map (·.name) =
        file.documentedStructs.map (·.name) := by
      rw [structs_types, List.map_map]
      rfl
    -- Both passes are unfolded at once: the reports of the types come before those of the
    -- callables.
    simp only [declarations, Noted.diagnostics_bind, Noted.diagnostics_pure, List.append_nil,
      diagnostics_types, diagnostics_typeEntry,
      diagnostics_callables ctx _ (locates_structIndex _), hnames, List.map_append,
      List.map_flatMap, diagnostics_entryRaised, diagnostics_callableRaised, reports_flatMap]
    rw [← Sibling.map_fst_documentedFrom [] file.items]
    rfl
  · rfl

end Extract

/-! ## Names of declarations -/

namespace Source

def Element.declaredNames : Element → List String
  | method name _ => [name]
  | constraint => []

/-- The name of a struct, or those of an interface and its methods. -/
def TypeDecl.declaredNames : TypeDecl → List String
  | spec name (.struct _ _) => [name]
  | spec name (.interface _ elements) =>
      name :: (Sibling.values elements).flatMap Element.declaredNames
  | _ => []

/-- The names of the types that a declaration declares, or that of a function or method. -/
def Decl.declaredNames : Decl → List String
  | types entries => (Sibling.values entries).flatMap TypeDecl.declaredNames
  | function _ name _ => [name]
  | method _ name _ => [name]
  | _ => []

/-- The names of the structs, interfaces, functions and methods of a file. -/
def File.declaredNames (f : File) : List String :=
  (Sibling.values f.items).flatMap Decl.declaredNames

/-- The word that a passage starts with has the form of a name. -/
theorem Passage.Named.isName {p : Passage} (h : p.Named) {w : String} (hw : p.word? = some w) :
    IsName w := by
  rcases Option.bind_eq_some_iff.1 hw with ⟨m, hm, hword⟩
  refine h.marks m (List.mem_of_head? hm) w ?_
  unfold Mark.word? at hword
  split at hword
  next v hv => rw [hv, Option.some.inj hword]
  next => simp at hword

def AllNames (names : List String) : Prop :=
  ∀ name ∈ names, IsName name

theorem allNames_nil : AllNames [] := by
  simp [AllNames]

theorem allNames_singleton {name : String} (h : IsName name) : AllNames [name] := by
  simpa [AllNames] using h

theorem allNames_flatMap {α : Type} {l : List α} {f : α → List String}
    (h : ∀ a ∈ l, AllNames (f a)) : AllNames (l.flatMap f) := by
  intro name hname
  rcases List.mem_flatMap.1 hname with ⟨a, ha, hname⟩
  exact h a ha name hname

theorem Element.allNames_read {p : Passage} (h : p.Named) : AllNames (read p).declaredNames := by
  unfold read
  split
  next name hword =>
    split
    · exact allNames_singleton (h.isName hword)
    · exact allNames_nil
  next => exact allNames_nil

/-- The names of a type and of its methods have the form of words. -/
theorem TypeDecl.allNames_spec {name : String} (hname : IsName name) {p : Passage} (h : p.Named) :
    AllNames (TypeDecl.spec name (TypeBody.read p)).declaredNames := by
  simp only [TypeBody.read]
  split
  next => exact allNames_nil
  next body hbody =>
    split
    · exact allNames_singleton hname
    · split
      · refine List.forall_mem_cons.2 ⟨hname, allNames_flatMap ?_⟩
        -- What is read between the braces keeps to their words.
        intro element helement
        rw [Sibling.values_append, Sibling.values_comments, List.nil_append] at helement
        have hinside : Token.Named body := (h.drop 1).body? hbody
        rcases Sibling.exists_of_mem_values_readAll hinside helement with ⟨q, rfl, hq⟩
        exact Element.allNames_read hq
      · exact allNames_nil

theorem TypeDecl.allNames_read {p : Passage} (h : p.Named) : AllNames (read p).declaredNames := by
  simp only [read]
  split
  next => exact allNames_nil
  next name hword =>
    split
    · exact allNames_nil
    · exact allNames_spec (h.isName hword) ((h.drop 1).drop _)

namespace Decl

/-- All names in a type declaration have the form of words. -/
theorem allNames_readTypes {p : Passage} (h : p.Named) : AllNames (readTypes p).declaredNames := by
  simp only [readTypes]
  split
  all_goals
    refine allNames_flatMap ?_
    intro entry hentry
    rw [Sibling.values_append, Sibling.values_comments, List.nil_append] at hentry
  next body hbody =>
    rcases Sibling.exists_of_mem_values_readAll (h.body? hbody) hentry with ⟨q, rfl, hq⟩
    exact TypeDecl.allNames_read hq
  next =>
    rw [Sibling.eq_of_mem_values_ofPieces hentry]
    exact TypeDecl.allNames_read h

theorem allNames_readFunction {start : Place} {p : Passage} (h : p.Named) :
    AllNames (readFunction start p).declaredNames := by
  simp only [readFunction]
  split
  next name hword => exact allNames_singleton (h.isName hword)
  next =>
    split
    next receiver name _ _ hword => exact allNames_singleton ((h.drop 1).isName hword)
    next => exact allNames_nil

theorem allNames_read {p : Passage} (h : p.Named) : AllNames (read p).declaredNames := by
  simp only [read]
  split
  · cases (p.drop 1).word? with
    | none => exact allNames_nil
    | some name => exact allNames_nil
  · exact allNames_readTypes (h.drop 1)
  · exact allNames_readFunction (h.drop 1)
  · exact allNames_nil

end Decl

/-- Every name that a source declares has the form of a word. -/
theorem File.allNames_parse (source : String) : AllNames (File.parse source).declaredNames := by
  refine allNames_flatMap ?_
  intro decl hdecl
  rcases Sibling.exists_of_mem_values_readAll (Token.named_scan source.toList) hdecl
    with ⟨p, rfl, hp⟩
  exact Decl.allNames_read hp

end Source

/-! ## Labels -/

namespace Extract

open Source

def Check.owner : Check → String
  | .type subject _ _ => subject.owner
  | .tag subject _ => subject.owner

/-- A report names the owner of the check that it comes from. -/
theorem Check.owner_of_report? {c : Check} {d : Diagnostic} (h : c.report? = some d) :
    d.owner = c.owner := by
  unfold Check.report? at h
  split at h
  · obtain rfl := Option.some.inj h
    rfl
  · simp at h
  · split at h
    · simp at h
    · obtain rfl := Option.some.inj h
      rfl

/-- The reports of checks with one owner have this owner. -/
theorem owner_of_mem_reports {checks : List Check} {owner : String}
    (hchecks : ∀ c ∈ checks, c.owner = owner) {d : Diagnostic} (h : d ∈ reports checks) :
    d.owner = owner := by
  rcases List.mem_filterMap.1 h with ⟨c, hc, hreport⟩
  rw [Check.owner_of_report? hreport, hchecks c hc]

theorem owner_of_mem_field {structName : String} {f : Source.Field} {d : Diagnostic}
    (h : d ∈ (field structName f).diagnostics) : d.owner = structName := by
  rw [diagnostics_field] at h
  refine owner_of_mem_reports ?_ h
  intro c hc
  -- The check of the type, and that of the tag if there is one.
  cases f with
  | named first more type tag =>
      rcases List.mem_cons.1 hc with rfl | hc
      · rfl
      · rcases List.mem_map.1 hc with ⟨literal, -, rfl⟩
        rfl
  | embedded star type tag =>
      rcases List.mem_cons.1 hc with rfl | hc
      · rfl
      · rcases List.mem_map.1 hc with ⟨literal, -, rfl⟩
        rfl

theorem owner_paramCheck (label : String) (item : ParamItem) (index : Nat) :
    (paramCheck label item index).owner = label := by
  unfold paramCheck
  split
  · rfl
  · rfl

theorem owner_of_mem_resultChecks {label : String} {result : ResultSpec} {c : Check}
    (h : c ∈ resultChecks label result) : c.owner = label := by
  cases result with
  | absent => simp [resultChecks] at h
  | single type =>
      obtain rfl := List.mem_singleton.1 h
      rfl
  | list items =>
      rcases List.mem_map.1 h with ⟨⟨item, index⟩, -, rfl⟩
      rfl

/-- The diagnostics of a callable name its label. -/
theorem owner_of_mem_signature {owner name : String} {s : Signature} {d : Diagnostic}
    (h : d ∈ (signature owner name s).diagnostics) : d.owner = callableLabel owner name := by
  rw [diagnostics_signature] at h
  refine owner_of_mem_reports ?_ h
  intro c hc
  rcases List.mem_append.1 hc with hparam | hresult
  · rcases List.mem_map.1 hparam with ⟨⟨item, index⟩, -, rfl⟩
    exact owner_paramCheck _ item index
  · exact owner_of_mem_resultChecks hresult

namespace Origin

def names : Origin → List String
  | field struct => [struct]
  | method owner name => [owner, name]
  | function name => [name]

def label : Origin → String
  | field struct => struct
  | method owner name => callableLabel owner name
  | function name => name

end Origin

/-- How a raised diagnostic and its origin belong together: it is labelled by the origin, which is
made of the given names. -/
structure Raised.Labelled (names : List String) (r : Raised) : Prop where
  owner : r.diagnostic.owner = r.origin.label
  names : ∀ name ∈ r.origin.names, name ∈ names

/-- Diagnostics of one part bear its label. -/
theorem labelled_of_mem_raisedBy {α : Type} {origin : Origin} {x : Noted α} {names : List String}
    (howner : ∀ d ∈ x.diagnostics, d.owner = origin.label)
    (hnames : ∀ name ∈ origin.names, name ∈ names) {r : Raised} (h : r ∈ raisedBy origin x) :
    r.Labelled names := by
  rcases List.mem_map.1 h with ⟨d, hd, rfl⟩
  exact ⟨howner d hd, hnames⟩

theorem labelled_of_mem_elementRaised {interfaceName : String} {element : Element} {r : Raised}
    (h : r ∈ elementRaised interfaceName element) :
    r.Labelled (interfaceName :: element.declaredNames) := by
  cases element with
  | constraint => simp [elementRaised] at h
  | method name s =>
      exact labelled_of_mem_raisedBy (fun d => owner_of_mem_signature)
        (by simp [Origin.names, Element.declaredNames]) h

theorem Raised.Labelled.mono {names names' : List String} {r : Raised} (h : r.Labelled names)
    (hsub : names ⊆ names') : r.Labelled names' :=
  ⟨h.owner, fun name hname => hsub (h.names name hname)⟩

/-- The diagnostics of an entry bear labels made of the names that it declares. -/
theorem labelled_of_mem_entryRaised {entry : TypeDecl × List String} {r : Raised}
    (h : r ∈ entryRaised entry) : r.Labelled entry.1.declaredNames := by
  unfold entryRaised at h
  split at h
  next name start fields doc docs =>
    rcases List.mem_flatMap.1 h with ⟨f, -, hr⟩
    exact labelled_of_mem_raisedBy (fun d => owner_of_mem_field)
      (by simp [Origin.names, TypeDecl.declaredNames]) hr
  next name start elements doc docs =>
    rcases List.mem_flatMap.1 h with ⟨element, helement, hr⟩
    refine (labelled_of_mem_elementRaised hr).mono (List.cons_subset_cons name ?_)
    exact fun w hw => List.mem_flatMap.2 ⟨element, helement, hw⟩
  next => simp at h

/-- The diagnostics of a callable bear labels made of its name and the name of a reported struct. -/
theorem labelled_of_mem_callableRaised {reported : List String} {decl : Decl} {r : Raised}
    (h : r ∈ callableRaised reported decl) : r.Labelled (reported ++ decl.declaredNames) := by
  cases decl with
  | function start name s =>
      exact labelled_of_mem_raisedBy (fun d hd => (owner_of_mem_signature hd).trans (if_pos rfl))
        (by simp [Origin.names, Decl.declaredNames]) h
  | method receiver name s =>
      simp only [callableRaised] at h
      split at h
      next owner _ =>
        split at h
        next howner =>
          exact labelled_of_mem_raisedBy (fun d => owner_of_mem_signature)
            (by simp [Origin.names, Decl.declaredNames, howner]) h
        next => simp at h
      next => simp at h
  | _ => simp [callableRaised] at h

theorem declaredNames_subset_of_mem_entriesWithDocs {f : Source.File}
    {entry : TypeDecl × List String} (h : entry ∈ entriesWithDocs (Sibling.documented f.items)) :
    entry.1.declaredNames ⊆ f.declaredNames := by
  rcases Sibling.exists_types_of_mem_entriesWithDocs h with ⟨entries, hitem, hentry⟩
  intro w hw
  exact List.mem_flatMap.2 ⟨_, hitem, List.mem_flatMap.2 ⟨entry.1, hentry, hw⟩⟩

/-- The structs with doc blocks are among the declared names. -/
theorem names_documentedStructs_subset (f : Source.File) :
    f.documentedStructs.map (·.name) ⊆ f.declaredNames := by
  intro name hname
  rcases List.mem_map.1 hname with ⟨d, hd, rfl⟩
  rcases List.mem_filterMap.1 hd with ⟨entry, hentry, hstruct⟩
  refine declaredNames_subset_of_mem_entriesWithDocs hentry ?_
  rw [Documented.struct?_eq_some hstruct]
  exact List.mem_singleton.2 rfl

/-- Every diagnostic of a file bears the label of what raises it, made of declared names. -/
theorem labelled_of_mem_raised {f : Source.File} {r : Raised} (h : r ∈ f.raised) :
    r.Labelled f.declaredNames := by
  unfold Source.File.raised at h
  split at h
  · rcases List.mem_append.1 h with hentries | hcallables
    · rcases List.mem_flatMap.1 hentries with ⟨entry, hentry, hr⟩
      exact (labelled_of_mem_entryRaised hr).mono
        (declaredNames_subset_of_mem_entriesWithDocs hentry)
    · -- The owner of a method is the name of a struct, and so a declared name as well.
      rcases List.mem_flatMap.1 hcallables with ⟨decl, hdecl, hr⟩
      refine (labelled_of_mem_callableRaised hr).mono (List.append_subset.2 ⟨?_, ?_⟩)
      · exact names_documentedStructs_subset f
      · exact fun w hw => List.mem_flatMap.2 ⟨decl, hdecl, hw⟩
  · simp at h

/-! ## Labels that are shared -/

section Points

variable {owner name : String}

theorem point_not_mem_of_isName (h : IsName name) : '.' ∉ name.toList :=
  fun hmem => h.ne_of_not_continuesWord hmem Text.point_not_in_names.2 rfl

/-- The label of a method has a point in it, unless its name is that of its owner. -/
theorem point_mem_callableLabel_iff (hname : IsName name) :
    '.' ∈ (callableLabel owner name).toList ↔ owner ≠ name := by
  unfold callableLabel
  split
  next hsame => simp [hsame, point_not_mem_of_isName hname]
  next hother => simp [hother]

/-- A method is labelled in full exactly if its name is not that of its owner. -/
theorem callableLabel_eq_full_iff (hname : IsName name) :
    callableLabel owner name = owner ++ "." ++ name ↔ owner ≠ name := by
  constructor
  · intro hfull
    rw [← point_mem_callableLabel_iff hname, hfull]
    simp
  · exact fun hother => if_neg hother

/-- The label of a method is a single name exactly if method and owner share this name. -/
theorem callableLabel_eq_name_iff {other : String} (hname : IsName name) (hother : IsName other) :
    callableLabel owner name = other ↔ owner = name ∧ other = owner := by
  constructor
  · intro h
    by_cases hsame : owner = name
    · exact ⟨hsame, by rw [← h, callableLabel, if_pos hsame, hsame]⟩
    · have hpoint := (point_mem_callableLabel_iff hname).2 hsame
      rw [h] at hpoint
      exact absurd hpoint (point_not_mem_of_isName hother)
  · rintro ⟨rfl, rfl⟩
    exact if_pos rfl

/-- Two methods share a label only if both owner and name are the same. -/
theorem callableLabel_inj {owner' name' : String} (howner : IsName owner) (hname : IsName name)
    (howner' : IsName owner') (hname' : IsName name') :
    callableLabel owner name = callableLabel owner' name' ↔ owner = owner' ∧ name = name' := by
  constructor
  · intro h
    by_cases hsame : owner' = name'
    -- The other label is a single name, so owner and name are the same here too.
    · subst hsame
      rw [callableLabel.eq_def owner' owner', if_pos rfl,
        callableLabel_eq_name_iff hname howner'] at h
      exact ⟨h.2.symm, h.1.symm.trans h.2.symm⟩
    · -- Both labels have a point then, and what stands before it is the owner.
      have hother : owner ≠ name := by
        rw [← point_mem_callableLabel_iff hname, h]
        exact (point_mem_callableLabel_iff hname').2 hsame
      rw [callableLabel, callableLabel, if_neg hother, if_neg hsame] at h
      have hchars : owner.toList ++ '.' :: name.toList = owner'.toList ++ '.' :: name'.toList := by
        simpa using congrArg String.toList h
      simpa [String.toList_inj] using Text.append_cons_inj (point_not_mem_of_isName howner)
        (point_not_mem_of_isName howner') hchars
  · rintro ⟨rfl, rfl⟩
    rfl

end Points

/-- A method shares its label with the fields of a struct and with a function exactly if all of them
have one name, and with no other method. -/
theorem Origin.label_eq_iff {owner name : String} (howner : IsName owner) (hname : IsName name)
    {o : Origin} (ho : AllNames o.names) :
    o.label = callableLabel owner name ↔
      o = .method owner name ∨ (owner = name ∧ (o = .field owner ∨ o = .function owner)) := by
  cases o with
  | field struct =>
      rw [Origin.label, eq_comm,
        callableLabel_eq_name_iff hname (ho struct (List.mem_singleton.2 rfl))]
      simp
  | function other =>
      rw [Origin.label, eq_comm,
        callableLabel_eq_name_iff hname (ho other (List.mem_singleton.2 rfl))]
      simp
  | method owner' name' =>
      rcases List.forall_mem_cons.1 ho with ⟨howner', hrest⟩
      rw [Origin.label, callableLabel_inj howner' (hrest name' (List.mem_singleton.2 rfl)) howner
        hname]
      simp

/-- In every source text, a diagnostic about a parameter or result of a method has the method for its
owner, written with the owner of the method and a point before its name, exactly if the method is
not named like its owner; otherwise its owner is that one name. It thus has the same owner as a
diagnostic of a field or function only in the latter case, and then for the struct and the function
of this name, and never the same as that of another method. -/
theorem method_owner_eq_iff (ctx : Context) (source : String) :
    (Source.File.parse source).raised.map (·.diagnostic) = (ofSource ctx source).diagnostics ∧
    ∀ (owner name : String) (d : Diagnostic),
      ⟨.method owner name, d⟩ ∈ (Source.File.parse source).raised →
      (d.owner = owner ++ "." ++ name ↔ owner ≠ name) ∧ (owner = name → d.owner = owner) ∧
      ∀ r ∈ (Source.File.parse source).raised,
        r.diagnostic.owner = d.owner ↔
          r.origin = .method owner name ∨
            (owner = name ∧ (r.origin = .field owner ∨ r.origin = .function owner)) := by
  refine ⟨diagnostics_raised ctx _, ?_⟩
  intro owner name d hd
  -- All names are declared in the source, and so have the form of words.
  have hdeclared := Source.File.allNames_parse source
  have hlabelled := labelled_of_mem_raised hd
  have howner : IsName owner := hdeclared owner (hlabelled.names owner (by simp [Origin.names]))
  have hname : IsName name := hdeclared name (hlabelled.names name (by simp [Origin.names]))
  have hlabel : d.owner = callableLabel owner name := hlabelled.owner
  rw [hlabel]
  refine ⟨callableLabel_eq_full_iff hname, ?_, ?_⟩
  · rintro rfl
    exact if_pos rfl
  · intro r hr
    have hother := labelled_of_mem_raised hr
    rw [hother.owner]
    exact Origin.label_eq_iff howner hname fun w hw => hdeclared w (hother.names w hw)

/-- A source text with a struct, a method named like it and another method, all with a fault in a
part of one name. -/
def namesakeSource : String :=
  "package p\n\n// A is documented.\ntype A struct \x7b\n\tF []int\n\x7d\n\n" ++
    "func (a A) A(F []int) \x7b\x7d\n\nfunc (a A) B(F []int) \x7b\x7d\n"

/-- What the source raises: a field, the method named like its struct, and the other method. -/
theorem raised_namesakeSource :
    (Source.File.parse namesakeSource).raised =
      [⟨.field "A", ⟨"A", "F", ⟨5, 3, 50⟩, "unsupported type shape `slice_type`: []int"⟩⟩,
        ⟨.method "A" "A", ⟨"A", "F", ⟨8, 15, 74⟩, "unsupported type shape `slice_type`: []int"⟩⟩,
        ⟨.method "A" "B",
          ⟨"A.B", "F", ⟨10, 15, 100⟩, "unsupported type shape `slice_type`: []int"⟩⟩] := by
  decide +kernel

/-- A parameter of the method is labelled like the field of the struct. -/
theorem method_owner_is_struct :
    ∃ parameter structField : Diagnostic,
      ⟨.method "A" "A", parameter⟩ ∈ (Source.File.parse namesakeSource).raised ∧
      ⟨.field "A", structField⟩ ∈ (Source.File.parse namesakeSource).raised ∧
      parameter.owner ≠ "A.A" ∧ parameter.owner = structField.owner ∧
      parameter.item = structField.item := by
  rw [raised_namesakeSource]
  exact ⟨_, _, List.mem_cons_of_mem _ List.mem_cons_self, List.mem_cons_self, by decide, rfl, rfl⟩

/-- The other method is labelled in full, and no other part bears its label. -/
theorem method_owner_eq_iff_namesakeSource :
    (ofSource ⟨"p", "p", "f.go"⟩ namesakeSource).diagnostics.map (·.owner) = ["A", "A", "A.B"] ∧
    ∃ d : Diagnostic, ⟨.method "A" "B", d⟩ ∈ (Source.File.parse namesakeSource).raised ∧
      d.owner = "A" ++ "." ++ "B" ∧
      ∀ r ∈ (Source.File.parse namesakeSource).raised,
        r.diagnostic.owner = d.owner → r.origin = .method "A" "B" := by
  rcases method_owner_eq_iff ⟨"p", "p", "f.go"⟩ namesakeSource with ⟨hall, hmethods⟩
  have hmem : ⟨.method "A" "B",
      ⟨"A.B", "F", ⟨10, 15, 100⟩, "unsupported type shape `slice_type`: []int"⟩⟩ ∈
        (Source.File.parse namesakeSource).raised := by
    simp [raised_namesakeSource]
  rcases hmethods _ _ _ hmem with ⟨hfull, -, hshared⟩
  refine ⟨?_, _, hmem, hfull.2 (by decide), ?_⟩
  · rw [← hall, raised_namesakeSource]
    rfl
  · intro r hr howner
    exact ((hshared r hr).1 howner).resolve_right fun hsame => absurd hsame.1 (by decide)

end Extract
end GoSurvey
