import GoSurvey.Proofs.BytePositions
import GoSurvey.Proofs.KeywordOrder

/-!
# Reported positions

Structs, interfaces and functions are reported where their keywords stand, and diagnostics where the
type or the tag starts that they are about. This file shows that all these positions are those of
bytes of the source text.

* `Token.Anchors` — a place at which something can be read from tokens;
* `Extract.Check.place` — where a part of a declaration is checked;
* `Extract.anchored_entryChecks`, `Extract.anchored_callableChecks` — the parts of a declaration are
  checked at places of the tokens that it is read from;
* `Extract.positions_are_true` — the positions in the model of a source text.
-/

namespace GoSurvey
namespace Source

/-! ## Where passages start -/

/-- Whether one of the tokens starts at the place. What is read from no tokens has the origin for its
place. -/
def Token.Anchors (ts : List Token) (p : Place) : Prop :=
  p = Place.origin ∨ ∃ t ∈ ts, t.start = p

theorem Token.Anchors.mono {ts us : List Token} {p : Place} (h : Anchors ts p) (hsub : ts ⊆ us) :
    Anchors us p :=
  h.imp_right fun ⟨t, ht, hstart⟩ => ⟨t, hsub ht, hstart⟩

theorem Token.Anchors.standsIn {s : List Char} {p : Place} (h : Anchors (scan s) p) :
    p.StandsIn s := by
  rcases h with rfl | ⟨t, ht, rfl⟩
  · exact Place.standsIn_origin s
  · exact standsIn_of_mem_scan ht

namespace Passage

theorem anchors_start (p : Passage) : Token.Anchors p.tokens p.start := by
  cases hpieces : p.pieces with
  | nil => exact Or.inl (by simp [start, hpieces])
  | cons piece later =>
      -- Trivia may stand before the first piece, but its place is that of its chunk.
      rcases piece.chunk.tokens_eq_cons_first with ⟨more, hchunk⟩
      have hfirst : piece.chunk.first ∈ p.tokens := by
        simp [tokens, hpieces, Piece.tokens, hchunk]
      exact Or.inr ⟨piece.chunk.first, hfirst, by simp [start, hpieces, Piece.start]⟩

theorem anchors_start_drop (p : Passage) (n : Nat) : Token.Anchors p.tokens (p.drop n).start :=
  (p.drop n).anchors_start.mono (p.tokens_drop_sublist n).subset

theorem body?_subset {p : Passage} {s : String} {body : List Token} (h : p.body? s = some body) :
    body ⊆ p.tokens :=
  (isInfix_of_body? h).subset

end Passage

/-! ## Places of items -/

/-- An item starts at one of the tokens that it is read from, and so does its type. -/
theorem ParamItem.anchors_of_mem_ofReadings {rs : List ParamReading} {passed : Nat} {p : Passage}
    {item : ParamItem} (h : item ∈ ofReadings passed p rs) :
    Token.Anchors p.tokens item.start ∧ Token.Anchors p.tokens item.type.start := by
  induction rs generalizing passed p with
  | nil => simp [ofReadings] at h
  | cons r rs ih =>
      have hhere := (p.tokens_drop_sublist (r.start - passed)).subset
      rcases List.mem_cons.1 h with rfl | hlater
      · exact ⟨p.anchors_start_drop _, (Passage.anchors_start_drop _ _).mono hhere⟩
      · exact (ih hlater).imp (·.mono hhere) (·.mono hhere)

/-- An item and its type start where a token of the list does. -/
theorem ParamItem.anchors_of_mem_readList {body : List Token} {item : ParamItem}
    (h : item ∈ readList body) :
    Token.Anchors body item.start ∧ Token.Anchors body item.type.start := by
  have hbody := (Passage.isPrefix_tokens_ofTokens body).subset
  exact (anchors_of_mem_ofReadings h).imp (·.mono hbody) (·.mono hbody)

theorem Field.start_of_tag? {p : Passage} {tag : TagLiteral} (h : tag? p = some tag) :
    tag.start = p.start := by
  rcases Option.map_eq_some_iff.1 h with ⟨piece, hhead, rfl⟩
  simp [Passage.start, hhead]

end Source

namespace Extract

open Model Source

/-! ## Places of checks -/

/-- Where a part of a declaration is checked, and reported if it has to be. -/
def Check.place : Check → Place
  | .type _ place _ => place
  | .tag _ literal => literal.start

/-- A report stands at the place of its check. -/
theorem Check.position_of_report? {c : Check} {d : Diagnostic} (h : c.report? = some d) :
    d.position = .ofPlace c.place := by
  unfold Check.report? at h
  split at h
  · obtain rfl := Option.some.inj h
    rfl
  · simp at h
  · split at h
    · simp at h
    · obtain rfl := Option.some.inj h
      rfl

def AnchoredIn (ts : List Token) (checks : List Check) : Prop :=
  ∀ c ∈ checks, Token.Anchors ts c.place

section Anchored

variable {ts us : List Token} {checks checks' : List Check}

theorem anchoredIn_nil : AnchoredIn ts [] := by
  simp [AnchoredIn]

theorem AnchoredIn.mono (h : AnchoredIn ts checks) (hsub : ts ⊆ us) : AnchoredIn us checks :=
  fun c hc => (h c hc).mono hsub

theorem AnchoredIn.append (h : AnchoredIn ts checks) (h' : AnchoredIn ts checks') :
    AnchoredIn ts (checks ++ checks') :=
  List.forall_mem_append.2 ⟨h, h'⟩

theorem anchoredIn_flatMap {α : Type} {l : List α} {f : α → List Check}
    (h : ∀ a ∈ l, AnchoredIn ts (f a)) : AnchoredIn ts (l.flatMap f) := by
  intro c hc
  rcases List.mem_flatMap.1 hc with ⟨a, ha, hc⟩
  exact h a ha c hc

end Anchored

/-- A field is checked at the start of its type and at its tag. -/
theorem anchored_fieldChecks (structName : String) {body : List Token} {f : Source.Field}
    (h : f ∈ Source.Field.readAll body) : AnchoredIn body (fieldChecks structName f) := by
  rcases Source.Field.exists_of_mem_readAll h with ⟨n, r, -, rfl⟩
  -- Wherever in the body the field starts, its tokens are some of those of the body.
  have hbody : ((Passage.ofTokens body).drop n).tokens ⊆ body :=
    List.Subset.trans (Passage.tokens_drop_sublist n _).subset
      (Passage.isPrefix_tokens_ofTokens body).subset
  generalize (Passage.ofTokens body).drop n = p at hbody
  have htype : Token.Anchors body (p.drop r.typeStart).start :=
    (p.anchors_start_drop r.typeStart).mono hbody
  have htag : ∀ subject, AnchoredIn body
      ((r.tag.bind fun n => Source.Field.tag? (p.drop n)).toList.map (.tag subject)) := by
    intro subject c hc
    rcases List.mem_map.1 hc with ⟨literal, hliteral, rfl⟩
    rcases Option.bind_eq_some_iff.1 (Option.mem_toList.1 hliteral) with ⟨n, -, hread⟩
    rw [Check.place, Source.Field.start_of_tag? hread]
    exact (p.anchors_start_drop n).mono hbody
  unfold Source.Field.ofReading
  cases r.names with
  | nil => exact List.forall_mem_cons.2 ⟨htype, htag _⟩
  | cons first more => exact List.forall_mem_cons.2 ⟨htype, htag _⟩

/-! ## Signatures -/

/-- A variadic item is reported where it starts, any other where its type does. -/
theorem place_paramCheck (label : String) (item : ParamItem) (index : Nat) :
    (paramCheck label item index).place =
      if item.variadic then item.start else item.type.start := by
  unfold paramCheck
  split
  · rfl
  · rfl

theorem anchored_params (label : String) {body : List Token} :
    AnchoredIn body ((ParamItem.readList body).zipIdx.map fun (item, index) =>
      paramCheck label item index) := by
  intro c hc
  rcases List.mem_map.1 hc with ⟨⟨item, index⟩, hitem, rfl⟩
  rcases ParamItem.anchors_of_mem_readList (List.fst_mem_of_mem_zipIdx hitem) with ⟨hstart, htype⟩
  rw [place_paramCheck]
  split
  · exact hstart
  · exact htype

/-- Results are checked where their list has them, a single one at its type. -/
theorem anchored_resultChecks (label : String) (p : Passage) :
    AnchoredIn p.tokens (resultChecks label (ResultSpec.read p)) := by
  unfold ResultSpec.read
  split
  · exact anchoredIn_nil
  · split
    next body hbody =>
      intro c hc
      rcases List.mem_map.1 hc with ⟨⟨item, index⟩, hitem, rfl⟩
      have hitem := ParamItem.anchors_of_mem_readList (List.fst_mem_of_mem_zipIdx hitem)
      exact hitem.2.mono (Passage.body?_subset hbody)
    next =>
      split
      · intro c hc
        obtain rfl := List.mem_singleton.1 hc
        exact p.anchors_start
      · exact anchoredIn_nil

/-- The checks of a signature lie within its tokens. -/
theorem anchored_signatureChecks (owner name : String) (p : Passage) :
    AnchoredIn p.tokens (signatureChecks owner name (Signature.read p)) := by
  refine AnchoredIn.append ?_ ?_
  · cases hbody : p.body? "(" with
    | none => simp [Signature.read, hbody, AnchoredIn]
    | some body =>
        simp only [Signature.read, hbody, Option.map_some, Option.getD_some]
        exact (anchored_params _).mono (Passage.body?_subset hbody)
  · exact (anchored_resultChecks _ _).mono (p.tokens_drop_sublist 1).subset

/-! ## Declarations -/

theorem anchored_elementChecks (interfaceName : String) (p : Passage) :
    AnchoredIn p.tokens (elementChecks interfaceName (Element.read p)) := by
  unfold Element.read
  split
  · split
    · exact (anchored_signatureChecks _ _ _).mono (p.tokens_drop_sublist 1).subset
    · exact anchoredIn_nil
  · exact anchoredIn_nil

theorem anchored_typeChecks (name doc : String) (docs : List String) (p : Passage) :
    AnchoredIn p.tokens (entryChecks (.spec name (TypeBody.read p), doc :: docs)) := by
  simp only [TypeBody.read]
  split
  next => exact anchoredIn_nil
  next body hbody =>
    have hsub : body ⊆ p.tokens :=
      List.Subset.trans (Passage.body?_subset hbody) (p.tokens_drop_sublist 1).subset
    split
    · exact anchoredIn_flatMap fun f hf => (anchored_fieldChecks name hf).mono hsub
    · split
      · refine anchoredIn_flatMap ?_
        intro element helement
        rw [Sibling.values_append, Sibling.values_comments, List.nil_append] at helement
        rcases Sibling.exists_infix_of_mem_values_readAll helement with ⟨q, rfl, hq, -⟩
        exact (anchored_elementChecks name q).mono (List.Subset.trans hq.subset hsub)
      · exact anchoredIn_nil

theorem anchored_entryChecks (docs : List String) (p : Passage) :
    AnchoredIn p.tokens (entryChecks (TypeDecl.read p, docs)) := by
  cases docs with
  | nil =>
      -- An entry without a doc block is not looked at.
      have hnone : entryChecks (TypeDecl.read p, []) = [] := by
        cases TypeDecl.read p with
        | synonym name => rfl
        | spec name body => cases body <;> rfl
      rw [hnone]
      exact anchoredIn_nil
  | cons doc docs =>
      simp only [TypeDecl.read]
      split
      · exact anchoredIn_nil
      · split
        · exact anchoredIn_nil
        · refine (anchored_typeChecks _ doc docs _).mono ?_
          exact ((Passage.tokens_drop_sublist _ _).trans (p.tokens_drop_sublist 1)).subset

/-- A function or method is checked within its signature. -/
theorem anchored_readFunction (reported : List String) (start : Place) (p : Passage) :
    AnchoredIn p.tokens (callableChecks reported (Decl.readFunction start p)) := by
  simp only [Decl.readFunction]
  split
  · -- Type parameters may stand before the signature of a function.
    refine (anchored_signatureChecks _ _ _).mono ?_
    split
    · exact ((Passage.tokens_drop_sublist _ _).trans (p.tokens_drop_sublist 1)).subset
    · exact (p.tokens_drop_sublist 1).subset
  · split
    · -- Only the methods of reported structs are checked.
      simp only [callableChecks]
      split
      · split
        · exact (anchored_signatureChecks _ _ _).mono (p.tokens_drop_sublist 2).subset
        · exact anchoredIn_nil
      · exact anchoredIn_nil
    · exact anchoredIn_nil

theorem anchored_callableChecks (reported : List String) (p : Passage) :
    AnchoredIn p.tokens (callableChecks reported (Decl.read p)) := by
  simp only [Decl.read]
  split
  · cases (p.drop 1).word? with
    | none => exact anchoredIn_nil
    | some name => exact anchoredIn_nil
  · -- The first pass has looked at type declarations.
    simp only [Decl.readTypes]
    split
    · exact anchoredIn_nil
    · exact anchoredIn_nil
  · exact (anchored_readFunction _ _ _).mono (p.tokens_drop_sublist 1).subset
  · exact anchoredIn_nil

/-! ## The model of a source text -/

variable (ctx : Context)

/-- The diagnostics of a file are those of checks of its entries and of its callables. -/
theorem exists_check_of_mem_diagnostics {file : Source.File} {d : Diagnostic}
    (h : d ∈ (model ctx file).diagnostics) :
    ∃ c : Check, c.report? = some d ∧
      ((∃ e ∈ entriesWithDocs (Sibling.documented file.items), c ∈ entryChecks e) ∨
        ∃ reported, ∃ decl ∈ Sibling.values file.items, c ∈ callableChecks reported decl) := by
  unfold model at h
  split at h
  · simp only [declarations, Noted.diagnostics_bind, Noted.diagnostics_pure, List.append_nil,
      diagnostics_types, diagnostics_typeEntry,
      diagnostics_callables ctx _ (locates_structIndex _), List.mem_append] at h
    -- The two passes make their checks one after the other.
    rcases h with htypes | hcallables
    · rcases List.mem_flatMap.1 htypes with ⟨e, he, hd⟩
      rcases List.mem_filterMap.1 hd with ⟨c, hc, hreport⟩
      exact ⟨c, hreport, Or.inl ⟨e, he, hc⟩⟩
    · rcases List.mem_filterMap.1 hcallables with ⟨c, hc, hreport⟩
      rcases List.mem_flatMap.1 hc with ⟨decl, hdecl, hc⟩
      rw [Sibling.documented, Sibling.map_fst_documentedFrom] at hdecl
      exact ⟨c, hreport, Or.inr ⟨_, decl, hdecl, hc⟩⟩
  · simp [emptyModel] at h

/-- Every report of a source stands at the start of one of its tokens. -/
theorem anchored_of_mem_diagnostics {source : String} {d : Diagnostic}
    (h : d ∈ (ofSource ctx source).diagnostics) :
    ∃ p, Token.Anchors (Token.scan source.toList) p ∧ d.position = .ofPlace p := by
  rcases exists_check_of_mem_diagnostics ctx h with ⟨c, hreport, hc⟩
  refine ⟨c.place, ?_, Check.position_of_report? hreport⟩
  rcases hc with ⟨⟨entry, docs⟩, hentry, hc⟩ | ⟨reported, decl, hdecl, hc⟩
  · rcases Source.File.exists_passage_of_mem_entriesWithDocs hentry with ⟨q, rfl, hq⟩
    exact (anchored_entryChecks docs q c hc).mono hq.subset
  · rcases Sibling.exists_infix_of_mem_values_readAll hdecl with ⟨q, rfl, hq, -⟩
    exact (anchored_callableChecks reported q c hc).mono hq.subset

theorem positions_structs (file : Source.File) :
    (model ctx file).structs.map (·.position) =
      (file.documentedStructs.map (·.start)).map .ofPlace := by
  simp [structs_model_eq_map, Function.comp_def]

theorem positions_interfaces (file : Source.File) :
    (model ctx file).interfaces.map (·.position) =
      (file.documentedInterfaces.map (·.start)).map .ofPlace := by
  simp [interfaces_model_eq_map, interface, Function.comp_def]

/-- The functions of a file without any comment are not listed. -/
theorem positions_funcs (file : Source.File) :
    (model ctx file).funcs.map (·.position) =
      if file.hasComment then file.functionStarts.map .ofPlace else [] := by
  rw [funcs_model_eq_filterMap]
  split
  · rw [Source.File.functionStarts, ← Sibling.map_fst_documentedFrom [] file.items,
      List.filterMap_map, List.map_filterMap, List.map_filterMap]
    refine List.filterMap_congr ?_
    rintro ⟨decl, docs⟩ -
    cases decl <;> rfl
  · rfl

end Extract

/-! ## Positions of bytes -/

namespace Model.Position

open Source Text

/-- Whether positions are those of a word in a text, one behind the other. -/
structure AreOf (bytes : List UInt8) (word : String) (ps : List Position) : Prop where
  isTrue : ∀ pos ∈ ps, pos.IsTrueIn bytes
  spells : ∀ pos ∈ ps, pos.Spells bytes word
  increasing : ps.Pairwise fun pos next => pos.offset < next.offset

section Words

variable {source word : String} {ps : List Place}
  (h : (ps.map (Word.mk word)).Sublist (Token.words (Token.scan source.toList)))

include h

theorem exists_token_of_mem {p : Place} (hp : p ∈ ps) :
    ∃ t ∈ Token.scan source.toList, word = String.ofList t.text ∧ p = t.start := by
  rcases Token.exists_of_mem_words (h.subset (List.mem_map_of_mem hp)) with ⟨t, ht, hword⟩
  exact ⟨t, ht, Word.mk.inj hword⟩

theorem standsIn_of_mem {p : Place} (hp : p ∈ ps) : p.StandsIn source.toList := by
  rcases exists_token_of_mem h hp with ⟨t, ht, -, rfl⟩
  exact Token.standsIn_of_mem_scan ht

/-- The places of words that stand one behind the other in a text are reported as such. -/
theorem areOf_map_ofPlace (hsize : (utf8 source).length < UInt32.size) :
    AreOf (utf8 source) word (ps.map ofPlace) where
  isTrue := by
    intro pos hpos
    rcases List.mem_map.1 hpos with ⟨p, hp, rfl⟩
    exact isTrueIn_ofPlace hsize (standsIn_of_mem h hp)
  spells := by
    intro pos hpos
    rcases List.mem_map.1 hpos with ⟨p, hp, rfl⟩
    rcases exists_token_of_mem h hp with ⟨t, ht, rfl, rfl⟩
    exact spells_ofPlace hsize ht
  increasing := by
    have horder := (Token.words_scan_inOrder source.toList).sublist h
    rw [List.pairwise_map] at horder ⊢
    refine horder.imp_of_mem ?_
    intro p q hp hq hlt
    have hoffset := (toNat_ofPlace hsize (standsIn_of_mem h hp)).2.2
    have hoffset' := (toNat_ofPlace hsize (standsIn_of_mem h hq)).2.2
    rw [UInt32.lt_iff_toNat_lt, hoffset, hoffset']
    exact hlt

end Words
end Model.Position

namespace Extract

open Model Source Text

/-- In a source text of less than 2^32 bytes, every reported position is that of a byte, with the line
and the column that the bytes before it make up. Structs, interfaces and functions are reported where
their keywords stand, in the order of the text. -/
theorem positions_are_true (ctx : Context) {source : String}
    (hsize : (utf8 source).length < UInt32.size) :
    Position.AreOf (utf8 source) "struct" ((ofSource ctx source).structs.map (·.position)) ∧
    Position.AreOf (utf8 source) "interface" ((ofSource ctx source).interfaces.map (·.position)) ∧
    Position.AreOf (utf8 source) "func" ((ofSource ctx source).funcs.map (·.position)) ∧
    ∀ d ∈ (ofSource ctx source).diagnostics, d.position.IsTrueIn (utf8 source) := by
  have hwords := Source.File.sublist_words_keywords source
  refine ⟨?_, ?_, ?_, ?_⟩
  · rw [ofSource, positions_structs]
    refine Position.areOf_map_ofPlace ?_ hsize
    rw [List.map_map]
    exact (Source.File.keywords_documentedStructs _).trans hwords
  · rw [ofSource, positions_interfaces]
    refine Position.areOf_map_ofPlace ?_ hsize
    rw [List.map_map]
    exact (Source.File.keywords_documentedInterfaces _).trans hwords
  · rw [ofSource, positions_funcs]
    split
    · exact Position.areOf_map_ofPlace ((Source.File.keywords_functionStarts _).trans hwords) hsize
    · exact ⟨by simp, by simp, List.Pairwise.nil⟩
  · intro d hd
    rcases anchored_of_mem_diagnostics ctx hd with ⟨p, hp, hposition⟩
    -- Reports may stand at any token.
    rw [hposition]
    exact Position.isTrueIn_ofPlace hsize hp.standsIn

/-- A text with characters of two bytes, a comment and a string of two rows, and two faulty types. -/
def twoRows : String :=
  "/* é\né */\ntype A struct \x7b X []int \x7d; var s = \x60é\n\x60; func F(é ...int) \x7b\x7d\n" ++
    "// I\ntype I interface \x7b\x7d; func G() \x7b\x7d\n"

/-- The comment and the string end a row below where they start, and an accented letter takes two
bytes. -/
theorem positions_twoRows :
    (ofSource ⟨"p", "p", "f.go"⟩ twoRows).structs.map (·.position) = [⟨3, 7, 19⟩] ∧
      (ofSource ⟨"p", "p", "f.go"⟩ twoRows).interfaces.map (·.position) = [⟨6, 7, 87⟩] ∧
      (ofSource ⟨"p", "p", "f.go"⟩ twoRows).funcs.map (·.position) =
        [⟨4, 3, 54⟩, ⟨6, 21, 101⟩] ∧
      (ofSource ⟨"p", "p", "f.go"⟩ twoRows).diagnostics.map (·.position) =
        [⟨3, 18, 30⟩, ⟨4, 10, 61⟩] := by
  decide +kernel

/-- The positions of the struct, the interface, both functions and both reports are true. -/
theorem positions_are_true_twoRows :
    (utf8 twoRows).length < UInt32.size ∧
      Position.AreOf (utf8 twoRows) "struct" [⟨3, 7, 19⟩] ∧
      Position.AreOf (utf8 twoRows) "interface" [⟨6, 7, 87⟩] ∧
      Position.AreOf (utf8 twoRows) "func" [⟨4, 3, 54⟩, ⟨6, 21, 101⟩] ∧
      ∀ pos ∈ [⟨3, 18, 30⟩, ⟨4, 10, 61⟩], Position.IsTrueIn (utf8 twoRows) pos := by
  have hsize : (utf8 twoRows).length < UInt32.size := by decide +kernel
  rcases positions_twoRows with ⟨hstructs, hinterfaces, hfuncs, hdiagnostics⟩
  rw [← hstructs, ← hinterfaces, ← hfuncs, ← hdiagnostics, List.forall_mem_map]
  exact ⟨hsize, positions_are_true _ hsize⟩

end Extract
end GoSurvey
