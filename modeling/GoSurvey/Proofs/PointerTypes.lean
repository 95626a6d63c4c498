import GoSurvey.Proofs.DocumentedDeclarations
import GoSurvey.Proofs.FieldReadings
import GoSurvey.Proofs.PieceMarks

/-!
# Pointer types in the source text

The outline of a pointer type tells whether a comment stands behind its star. This file finds that
comment again among the tokens of the source.

* `Token.startsInOrder_scan` — no two tokens start at the same place;
* `triviaAfter` — the blanks, line ends and comments behind the token at a place;
* `File.exists_body_of_mem_documentedStructs` — the fields of a struct are read from a stretch of the
  tokens;
* `File.commented_of_pointer` — what the outline tells of a pointer is so in the source.
-/

namespace GoSurvey
namespace Source

/-! ## Where tokens start -/

theorem Place.offset_lt_next (p : Place) (c : Char) : p.offset < (p.next c).offset := by
  unfold Place.next
  split
  · exact Nat.lt_succ_self p.offset
  · exact Nat.lt_add_of_pos_right (Char.utf8Size_pos c)

theorem Place.offset_le_after (p : Place) (s : List Char) : p.offset ≤ (p.after s).offset := by
  induction s generalizing p with
  | nil => exact Nat.le_refl p.offset
  | cons c s ih => exact Nat.le_trans (Nat.le_of_lt (p.offset_lt_next c)) (ih (p.next c))

namespace Token

/-- Each token starts behind the places at which the tokens before it start. -/
def StartsInOrder (ts : List Token) : Prop :=
  ts.Pairwise fun t u => t.start.offset < u.start.offset

/-- No token starts before the place the scan starts from. -/
theorem offset_le_of_mem_scanFrom {p : Place} {s : List Char} {t : Token} (h : t ∈ scanFrom p s) :
    p.offset ≤ t.start.offset := by
  rcases List.append_of_mem h with ⟨before, later, hsplit⟩
  rw [scanFrom_start hsplit]
  exact p.offset_le_after _

/-- Tokens start one after the other, as none is empty. -/
theorem startsInOrder_scanFrom (p : Place) (s : List Char) : StartsInOrder (scanFrom p s) := by
  fun_induction scanFrom p s with
  | case1 => exact List.Pairwise.nil
  | case2 p c s kind size found text ih =>
      refine List.Pairwise.cons ?_ ih
      intro u hu
      calc p.offset < (p.next c).offset := p.offset_lt_next c
        _ ≤ (p.after text).offset := (p.next c).offset_le_after _
        _ ≤ u.start.offset := offset_le_of_mem_scanFrom hu

theorem startsInOrder_scan (s : List Char) : StartsInOrder (scan s) := by
  cases s with
  | nil => exact List.Pairwise.nil
  | cons c s =>
      simp only [scan]
      split
      · refine List.Pairwise.cons ?_ (startsInOrder_scanFrom _ _)
        intro u hu
        exact Nat.lt_of_lt_of_le (Place.offset_lt_next _ c) (offset_le_of_mem_scanFrom hu)
      · exact startsInOrder_scanFrom _ _

end Token

/-- Whether `gap` is all that stands between the token at a place and the next one that is no
trivia. -/
def GapAfter (ts : List Token) (place : Place) (gap : List Token) : Prop :=
  ∃ before t next after, ts = before ++ t :: (gap ++ next :: after) ∧ t.start = place ∧
    (∀ u ∈ gap, u.isTrivia = true) ∧ next.isTrivia = false

theorem GapAfter.mono {ts us gap : List Token} {place : Place} (h : GapAfter ts place gap)
    (hts : ts <:+: us) : GapAfter us place gap := by
  rcases h with ⟨before, t, next, after, rfl, hstart, hgap, hnext⟩
  rcases hts with ⟨earlier, later, rfl⟩
  exact ⟨earlier ++ before, t, next, after ++ later, by simp, hstart, hgap, hnext⟩

/-- The blanks, line ends and comments behind the token at a place of a source text. -/
def triviaAfter (source : String) (place : Place) : List Token :=
  (((Token.scan source.toList).dropWhile (·.start != place)).drop 1).takeWhile (·.isTrivia)

/-- As no two tokens of a source start at the same place, there is only one gap behind each. -/
theorem GapAfter.triviaAfter_eq {source : String} {place : Place} {gap : List Token}
    (h : GapAfter (Token.scan source.toList) place gap) : triviaAfter source place = gap := by
  rcases h with ⟨before, t, next, after, hscan, rfl, hgap, hnext⟩
  -- Starts are distinct, so the token that starts at the place is found and no other.
  have hbefore : ∀ u ∈ before, (u.start != t.start) = true := by
    intro u hu
    have horder := Token.startsInOrder_scan source.toList
    rw [hscan] at horder
    have hlt := (List.pairwise_append.1 horder).2.2 u hu t List.mem_cons_self
    simp only [bne_iff_ne, ne_eq]
    intro heq
    simp [heq] at hlt
  unfold triviaAfter
  rw [hscan, List.dropWhile_append_of_pos hbefore, List.dropWhile_cons_of_neg (by simp),
    List.drop_succ_cons, List.drop_zero, List.takeWhile_append_of_pos hgap,
    List.takeWhile_cons_of_neg (by simp [hnext]), List.append_nil]

/-! ## Stretches of tokens -/

namespace Passage

theorem isSuffix_tokens_drop (p : Passage) (n : Nat) : (p.drop n).tokens <:+ p.tokens := by
  refine ⟨(p.pieces.take n).flatMap Piece.tokens, ?_⟩
  rw [tokens, tokens, drop, ← List.flatMap_append, List.take_append_drop]

theorem isPrefix_tokens_ofTokens (ts : List Token) : (ofTokens ts).tokens <+: ts :=
  ⟨(Pieces.ofTokens ts).trailing, Pieces.tokens_ofTokens ts⟩

/-- The body of a passage lies between its braces. -/
theorem isInfix_of_body? {p : Passage} {s : String} {body : List Token} (h : p.body? s = some body) :
    body <:+: p.tokens := by
  rcases Option.bind_eq_some_iff.1 h with ⟨piece, hhead, hbody⟩
  rcases List.head?_eq_some_iff.1 hhead with ⟨later, hpieces⟩
  unfold Chunk.body? at hbody
  split at hbody
  next => simp at hbody
  next opening inside closing hgroup =>
    obtain ⟨-, rfl⟩ : opening.isSymbol s = true ∧ inside = body := by simpa using hbody
    refine ⟨piece.lead ++ [opening], closing.toList ++ later.flatMap Piece.tokens, ?_⟩
    simp [tokens, hpieces, Piece.tokens, Chunk.tokens, hgroup]

end Passage

/-! ## The fields of a struct -/

/-- The fields of a struct type are read from a body within its tokens. -/
theorem TypeBody.exists_body_of_read {p : Passage} {start : Place} {fields : List Field}
    (h : TypeBody.read p = .struct start fields) :
    ∃ body, body <:+: p.tokens ∧ fields = Field.readAll body := by
  simp only [TypeBody.read] at h
  split at h
  next => simp at h
  next body hbody =>
    split at h
    · cases h
      exact ⟨body, (Passage.isInfix_of_body? hbody).trans (p.isSuffix_tokens_drop 1).isInfix, rfl⟩
    · split at h
      · simp at h
      · simp at h

theorem TypeDecl.exists_body_of_read {p : Passage} {name : String} {start : Place}
    {fields : List Field} (h : TypeDecl.read p = .spec name (.struct start fields)) :
    ∃ body, body <:+: p.tokens ∧ fields = Field.readAll body := by
  simp only [TypeDecl.read] at h
  split at h
  next => simp at h
  next =>
    split at h
    · simp at h
    · simp only [TypeDecl.spec.injEq] at h
      rcases TypeBody.exists_body_of_read h.2 with ⟨body, hbody, hfields⟩
      refine ⟨body, hbody.trans ?_, hfields⟩
      exact ((Passage.isSuffix_tokens_drop _ _).trans (p.isSuffix_tokens_drop 1)).isInfix

/-- An entry of a type declaration is read from a stretch of its tokens. -/
theorem Decl.exists_passage_of_read {p : Passage} {entries : List (Sibling TypeDecl)}
    {entry : TypeDecl} (h : Decl.read p = .types entries) (hentry : entry ∈ Sibling.values entries) :
    ∃ q : Passage, entry = TypeDecl.read q ∧ q.tokens <:+: p.tokens := by
  have htypes : Decl.readTypes (p.drop 1) = .types entries := by
    simp only [Decl.read] at h
    split at h
    · cases hword : (p.drop 1).word? with
      | none => simp [hword] at h
      | some name => simp [hword] at h
    · exact h
    · simp only [Decl.readFunction] at h
      split at h
      · simp at h
      · split at h
        · simp at h
        · simp at h
    · simp at h
  have hafter := (p.isSuffix_tokens_drop 1).isInfix
  simp only [Decl.readTypes] at htypes
  split at htypes
  next body hbody =>
    cases htypes
    rw [Sibling.values_append, Sibling.values_comments, List.nil_append] at hentry
    rcases Sibling.exists_infix_of_mem_values_readAll hentry with ⟨q, hread, htokens, -⟩
    exact ⟨q, hread, (htokens.trans (Passage.isInfix_of_body? hbody)).trans hafter⟩
  next =>
    cases htypes
    rw [Sibling.values_append, Sibling.values_comments, List.nil_append] at hentry
    exact ⟨p.drop 1, Sibling.eq_of_mem_values_ofPieces hentry, hafter⟩

/-- The entries of type declarations are read from stretches of the tokens of the source. -/
theorem File.exists_passage_of_mem_entriesWithDocs {source : String} {entry : TypeDecl × List String}
    (h : entry ∈ Extract.entriesWithDocs (Sibling.documented (File.parse source).items)) :
    ∃ q : Passage, entry.1 = TypeDecl.read q ∧ q.tokens <:+: Token.scan source.toList := by
  rcases Sibling.exists_types_of_mem_entriesWithDocs h with ⟨entries, hitem, hentry⟩
  rcases Sibling.exists_infix_of_mem_values_readAll hitem with ⟨p, hread, hp, -⟩
  rcases Decl.exists_passage_of_read hread.symm hentry with ⟨q, hspec, hq⟩
  exact ⟨q, hspec, hq.trans hp⟩

/-- The fields of a documented struct are read from a stretch of the tokens of the source. -/
theorem File.exists_body_of_mem_documentedStructs {source : String} {d : Documented Field}
    (h : d ∈ (File.parse source).documentedStructs) :
    ∃ body, body <:+: Token.scan source.toList ∧ d.body = Field.readAll body := by
  rcases List.mem_filterMap.1 h with ⟨entry, hentry, hstruct⟩
  obtain rfl := Documented.struct?_eq_some hstruct
  rcases exists_passage_of_mem_entriesWithDocs hentry with ⟨q, hspec, hq⟩
  rcases TypeDecl.exists_body_of_read hspec.symm with ⟨body, hbody, hfields⟩
  exact ⟨body, hbody.trans hq, hfields⟩

/-! ## Pointers -/

/-- Behind the star of a pointer there is the trivia before its target, with a comment among it or
not. -/
theorem TypeExpr.exists_gap_of_pointer {p : Passage} {r : TypeReading} {commented : Bool}
    {target : TypeForm} (hmarks : List.Forall₂ Mark.IsOf p.pieces p.marks)
    (hr : r ∈ TypeReading.readAll true false p.marks) (hform : r.form = .pointer commented target) :
    ∃ gap, GapAfter p.tokens (TypeExpr.ofReading p r).start gap ∧
      commented = gap.any (·.kind == .comment) := by
  rcases TypeReading.readAll_cases hr with hplain | ⟨m, rest, s, hms, hsign, hs, rfl⟩
  · exact absurd hform (hplain commented target)
  · -- The target is read from the marks behind the star, so there are some.
    cases rest with
    | nil => simp [TypeReading.readAll] at hs
    | cons n rest =>
        rw [hms] at hmarks
        rcases List.forall₂_cons_right_iff.1 hmarks with ⟨piece, pieces, hpiece, htail, hpieces⟩
        rcases List.forall₂_cons_right_iff.1 htail with ⟨inner, later, hinner, -, rfl⟩
        refine ⟨inner.lead, ?_, ?_⟩
        · cases hchunk : piece.chunk with
          | group opening body closing =>
              have hgroup := hpiece.sign
              simp [hchunk, Chunk.HasSign, hsign, Sign.isGroup] at hgroup
          | leaf star =>
              have hstar : piece.chunk.tokens = [star] := by rw [hchunk]; rfl
              rcases inner.chunk.tokens_eq_cons_first with ⟨more, hmore⟩
              refine ⟨piece.lead, star, inner.chunk.first, more ++ later.flatMap Piece.tokens,
                ?_, ?_, hinner.lead_trivia, hinner.first_token⟩
              · simp [Passage.tokens, hpieces, Piece.tokens, hstar, hmore]
              · simp [TypeExpr.ofReading, Passage.start, hpieces, Piece.start, hchunk, Chunk.first]
        · have hhead : n.commented = commented := by
            simpa [TypeReading.pointer] using (TypeForm.pointer.inj hform).1
          rw [← hhead, hinner.commented, Piece.commented]

namespace Field

theorem typeExpr_ofReading (p : Passage) (r : FieldReading) :
    (ofReading p r).typeExpr = TypeExpr.ofReading (p.drop r.typeStart) r.type := by
  unfold ofReading
  cases r.names with
  | nil => rfl
  | cons first more => rfl

/-- What the outline tells of a pointer is so in the body of the struct. -/
theorem exists_gap_of_named {body : List Token} {first : String} {more : List String}
    {type : TypeExpr} {tag : Option TagLiteral} {commented : Bool} {target : TypeForm}
    (h : .named first more type tag ∈ readAll body)
    (hform : type.form = .pointer commented target) :
    ∃ gap, GapAfter body type.start gap ∧ commented = gap.any (·.kind == .comment) := by
  rcases exists_of_mem_readAll h with ⟨n, r, hr, hfield⟩
  rcases FieldReading.hasTypeIn_of_mem_readAll hr with ⟨-, htype⟩ | ⟨hnames, -⟩
  · let p := ((Passage.ofTokens body).drop n).drop r.typeStart
    obtain rfl : type = TypeExpr.ofReading p r.type :=
      (congrArg typeExpr hfield).trans (typeExpr_ofReading _ _)
    have hmarks : List.Forall₂ Mark.IsOf p.pieces p.marks :=
      List.forall₂_drop _ (List.forall₂_drop n (Passage.forall₂_isOf_ofTokens body))
    have htokens : p.tokens <:+: body :=
      ((Passage.isSuffix_tokens_drop _ _).trans (Passage.isSuffix_tokens_drop _ _)).isInfix.trans
        (Passage.isPrefix_tokens_ofTokens body).isInfix
    rcases TypeExpr.exists_gap_of_pointer hmarks htype hform with ⟨gap, hgap, hcommented⟩
    exact ⟨gap, hgap.mono htokens, hcommented⟩
  · simp [ofReading, hnames] at hfield

/-- The type of an embedded field can be embedded. -/
theorem isEmbeddable_of_embedded {body : List Token} {star : Bool} {type : TypeExpr}
    {tag : Option TagLiteral} (h : .embedded star type tag ∈ readAll body) :
    type.form.isEmbeddable = true := by
  rcases exists_of_mem_readAll h with ⟨n, r, hr, hfield⟩
  have htype := (congrArg typeExpr hfield).trans (typeExpr_ofReading _ _)
  rcases FieldReading.hasTypeIn_of_mem_readAll hr with ⟨hnames, -⟩ | ⟨-, hform⟩
  · rcases List.exists_cons_of_ne_nil hnames with ⟨first, more, hnames⟩
    simp [ofReading, hnames] at hfield
  · simpa [typeExpr, TypeExpr.ofReading] using congrArg (·.form.isEmbeddable) htype |>.trans hform

end Field

namespace File

variable {source : String} {d : Documented Field} {type : TypeExpr} {tag : Option TagLiteral}

/-- What the outline tells of a pointer is so in the source. -/
theorem commented_of_pointer (hd : d ∈ (File.parse source).documentedStructs) {first : String}
    {more : List String} (h : .named first more type tag ∈ d.body) {commented : Bool}
    {target : TypeForm} (hform : type.form = .pointer commented target) :
    commented = (triviaAfter source type.start).any (·.kind == .comment) := by
  rcases exists_body_of_mem_documentedStructs hd with ⟨body, hbody, hfields⟩
  rw [hfields] at h
  rcases Field.exists_gap_of_named h hform with ⟨gap, hgap, hcommented⟩
  rw [(hgap.mono hbody).triviaAfter_eq]
  exact hcommented

/-- What is embedded is a name, a qualified name or a generic type. -/
theorem isEmbeddable_of_embedded (hd : d ∈ (File.parse source).documentedStructs) {star : Bool}
    (h : .embedded star type tag ∈ d.body) : type.form.isEmbeddable = true := by
  rcases exists_body_of_mem_documentedStructs hd with ⟨body, -, hfields⟩
  rw [hfields] at h
  exact Field.isEmbeddable_of_embedded h

end File
end Source
end GoSurvey
