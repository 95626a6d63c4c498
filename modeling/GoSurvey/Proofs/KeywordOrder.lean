import GoSurvey.Proofs.PointerTypes

/-!
# Keywords in source order

A struct, an interface or a function is placed where its keyword stands. This file finds the keywords
of a parsed file again among the words of the source text, in the same order.

* `Word`, `Token.words` — the words of a list of tokens;
* `Passage.Aligned` — a passage of which each mark is that of its piece;
* `Sibling.sublist_words_readAll` — what is read of a list stands in the order of the list;
* `File.keywords`, `File.sublist_words_keywords` — the keywords of a file are words of its text, one
  after the other;
* `File.keywords_documentedStructs`, `File.keywords_documentedInterfaces`,
  `File.keywords_functionStarts` — and those of the reported declarations are keywords of the file.
-/

namespace GoSurvey
namespace Source

/-- A word of a text, and where it stands. -/
structure Word where
  text : String
  start : Place
deriving DecidableEq

namespace Token

def toWord? (t : Token) : Option Word :=
  if t.kind = .word then some ⟨String.ofList t.text, t.start⟩ else none

def words (ts : List Token) : List Word :=
  ts.filterMap toWord?

/-- The words of two texts, one after the other, are those of each. -/
theorem words_append (ts us : List Token) : words (ts ++ us) = words ts ++ words us :=
  List.filterMap_append

/-- Fewer tokens have fewer words, in the same order. -/
theorem words_sublist {ts us : List Token} (h : ts.Sublist us) : (words ts).Sublist (words us) :=
  h.filterMap toWord?

/-- A word is the text of a token, and stands at its place. -/
theorem exists_of_mem_words {ts : List Token} {w : Word} (h : w ∈ words ts) :
    ∃ t ∈ ts, w = ⟨String.ofList t.text, t.start⟩ := by
  rcases List.mem_filterMap.1 h with ⟨t, ht, hword⟩
  rcases Option.ite_none_right_eq_some.1 hword with ⟨-, hsome⟩
  exact ⟨t, ht, (Option.some.inj hsome).symm⟩

/-- Words stand one after the other. -/
theorem words_scan_inOrder (s : List Char) :
    (words (scan s)).Pairwise fun w v => w.start.offset < v.start.offset := by
  refine List.pairwise_filterMap.2 ((startsInOrder_scan s).imp ?_)
  intro t u hlt w hw v hv
  rcases Option.ite_none_right_eq_some.1 hw with ⟨-, hw⟩
  rcases Option.ite_none_right_eq_some.1 hv with ⟨-, hv⟩
  obtain rfl := Option.some.inj hw
  obtain rfl := Option.some.inj hv
  exact hlt

end Token

/-! ## Passages -/

namespace Passage

def Aligned (p : Passage) : Prop :=
  List.Forall₂ Mark.IsOf p.pieces p.marks

/-- Marks and pieces stay together behind the first ones. -/
theorem Aligned.drop {p : Passage} (h : p.Aligned) (n : Nat) : (p.drop n).Aligned :=
  List.forall₂_drop n h

/-- The marks and pieces of tokens belong together. -/
theorem aligned_ofTokens (ts : List Token) : (ofTokens ts).Aligned :=
  forall₂_isOf_ofTokens ts

def words (p : Passage) : List Word :=
  Token.words p.tokens

/-- Behind the first pieces there are no words but those of the passage. -/
theorem words_drop_sublist (p : Passage) (n : Nat) : (p.drop n).words.Sublist p.words :=
  Token.words_sublist (p.tokens_drop_sublist n)

/-- The words between brackets are words of the passage. -/
theorem words_body?_sublist {p : Passage} {s : String} {body : List Token}
    (h : p.body? s = some body) : (Token.words body).Sublist p.words := by
  rcases body?_eq_some h with ⟨piece, later, -, hsub⟩
  exact Token.words_sublist ((List.sublist_append_right piece.lead body).trans hsub)

/-- The word that a passage starts with stands at its start. -/
theorem singleton_sublist_words {p : Passage} (hp : p.Aligned) {w : String}
    (h : p.word? = some w) : [Word.mk w p.start].Sublist p.words := by
  rcases Option.bind_eq_some_iff.1 h with ⟨m, hm, hword⟩
  rcases List.head?_eq_some_iff.1 hm with ⟨ms, hmarks⟩
  have hpieces := hp
  rw [Aligned, hmarks] at hpieces
  rcases List.forall₂_cons_right_iff.1 hpieces with ⟨piece, later, hpiece, -, hcons⟩
  have hsign : m.sign = .word w := by
    unfold Mark.word? at hword
    split at hword
    next v hv => rw [hv, Option.some.inj hword]
    next => simp at hword
  -- The mark is a word, so its piece is a single token and no bracketed group.
  have hof := hpiece.sign
  rw [hsign] at hof
  cases hchunk : piece.chunk with
  | group opening body closing => simp [hchunk, Chunk.HasSign, Sign.isGroup] at hof
  | leaf t =>
      rw [hchunk, Chunk.HasSign] at hof
      obtain ⟨hkind, rfl⟩ : t.kind = .word ∧ w = String.ofList t.text := by
        unfold Sign.ofToken at hof
        split at hof
        next hkind => exact ⟨hkind, Sign.word.inj hof⟩
        all_goals simp at hof
      have hmem : t ∈ p.tokens := by
        simp [tokens, hcons, Piece.tokens, hchunk, Chunk.tokens]
      have hstart : p.start = t.start := by
        simp [start, hcons, Piece.start, hchunk, Chunk.first]
      rw [List.singleton_sublist, hstart]
      exact List.mem_filterMap.2 ⟨t, hmem, by simp [Token.toWord?, hkind]⟩

end Passage

/-! ## Lists of entries -/

namespace Sibling

variable {α : Type} {view : α → List Word} {read : Passage → α}

/-- Pieces make one entry at most. -/
theorem values_ofPieces_sublist (ps : List Piece) (a : α) :
    (values (ofPieces ps a)).Sublist [a] := by
  unfold ofPieces
  split
  · exact List.Sublist.refl [a]
  · exact List.nil_sublist [a]

theorem sublist_words_ofPieces {p : Passage} (h : (view (read p)).Sublist p.words) :
    ((values (ofPieces p.pieces (read p))).flatMap view).Sublist p.words := by
  have hvalues := (values_ofPieces_sublist p.pieces (read p)).flatMap view
  rw [List.flatMap_singleton] at hvalues
  exact hvalues.trans h

variable (hread : ∀ p : Passage, p.Aligned → (view (read p)).Sublist p.words)

include hread

/-- What is read of the entries of a passage stands in the order of the passage, as each entry is
read from pieces behind those of the entry before it. -/
theorem sublist_words_readPassage (size : List Mark → Nat) (ps : List Piece) (ms : List Mark)
    (h : Passage.Aligned ⟨ps, ms⟩) :
    ((values (readPassage size read ps ms)).flatMap view).Sublist (Passage.words ⟨ps, ms⟩) := by
  fun_induction readPassage size read ps ms with
  | case1 => exact List.nil_sublist _
  | case2 p ps ms n entry ihTerminated ih =>
      have hentry : ((values (ofPieces entry (read ⟨entry, ms.take n⟩))).flatMap view).Sublist
          (Token.words (entry.flatMap Piece.tokens)) :=
        sublist_words_ofPieces (p := ⟨entry, ms.take n⟩) (hread _ (List.forall₂_take n h))
      -- An entry takes one piece at least, so what is left is a part of the tail.
      have hafter : (p :: ps).drop n = ps.drop (n - 1) := by
        obtain ⟨k, hk⟩ : ∃ k, n = k + 1 := ⟨n - 1, by omega⟩
        rw [hk, List.drop_succ_cons, Nat.add_sub_cancel]
      have hrest := List.forall₂_drop n h
      rw [hafter] at hrest
      -- The words of the passage are those of the entry and those of what is left.
      have hsplit : Passage.words ⟨p :: ps, ms⟩ =
          Token.words (entry.flatMap Piece.tokens) ++
            Token.words ((ps.drop (n - 1)).flatMap Piece.tokens) := by
        rw [← hafter, ← Token.words_append, ← List.flatMap_append, List.take_append_drop]
        rfl
      rw [values_append, values_append, values_comments, List.nil_append, List.flatMap_append,
        hsplit]
      refine hentry.append ?_
      split
      next => exact List.nil_sublist _
      next q qs hdrop =>
        rw [hdrop] at hrest ⊢
        split
        · -- A terminator belongs to no entry, and none of its words is read.
          have htail : Passage.Aligned ⟨qs, ms.drop (n + 1)⟩ := by
            have hone := List.forall₂_drop 1 hrest
            rwa [List.drop_succ_cons, List.drop_zero, List.drop_drop] at hone
          rw [values_append, values_comments, List.nil_append]
          refine (ihTerminated q qs hdrop htail).trans (Token.words_sublist ?_)
          exact List.sublist_append_right q.tokens _
        · exact ih q qs hdrop hrest

/-- What is seen of entries between brackets stands among the words there in order, if it does so
for each entry. -/
theorem sublist_words_readAll (size : Nat → List Mark → Nat) (ts : List Token) :
    ((values (readAll size read ts)).flatMap view).Sublist (Token.words ts) := by
  rw [readAll, values_append, values_comments, List.append_nil]
  refine (sublist_words_readPassage hread _ _ _ (Passage.aligned_ofTokens ts)).trans ?_
  exact Token.words_sublist (Passage.isPrefix_tokens_ofTokens ts).sublist

end Sibling

/-! ## Keywords of declarations -/

def TypeDecl.keywords : TypeDecl → List Word
  | spec _ (.struct start _) => [⟨"struct", start⟩]
  | spec _ (.interface start _) => [⟨"interface", start⟩]
  | _ => []

/-- The keywords of the types that a declaration declares, or that of a function. -/
def Decl.keywords : Decl → List Word
  | types entries => (Sibling.values entries).flatMap TypeDecl.keywords
  | function start _ _ => [⟨"func", start⟩]
  | _ => []

/-- The keywords of all structs, interfaces and functions of a file. -/
def File.keywords (f : File) : List Word :=
  (Sibling.values f.items).flatMap Decl.keywords

/-- The keyword of a type is a word of its passage. -/
theorem TypeDecl.sublist_words_spec (name : String) {p : Passage} (hp : p.Aligned) :
    (TypeDecl.spec name (TypeBody.read p)).keywords.Sublist p.words := by
  simp only [TypeBody.read]
  split
  next => exact List.nil_sublist _
  next body hbody =>
    split
    -- A struct or an interface starts with its keyword, and other types have none.
    next hword => exact Passage.singleton_sublist_words hp hword
    next =>
      split
      next hword => exact Passage.singleton_sublist_words hp hword
      next => exact List.nil_sublist _

/-- The keyword of an entry is a word of it, behind type parameters too. -/
theorem TypeDecl.sublist_words_read {p : Passage} (hp : p.Aligned) :
    (TypeDecl.read p).keywords.Sublist p.words := by
  simp only [TypeDecl.read]
  split
  · exact List.nil_sublist _
  · split
    · exact List.nil_sublist _
    · -- The type stands behind the name and the type parameters.
      refine (sublist_words_spec _ ((hp.drop 1).drop _)).trans ?_
      exact (Passage.words_drop_sublist _ _).trans (p.words_drop_sublist 1)

namespace Decl

/-- The keywords of a type declaration stand among its words in order. -/
theorem sublist_words_readTypes {p : Passage} (hp : p.Aligned) :
    (readTypes p).keywords.Sublist p.words := by
  simp only [readTypes]
  split
  next body hbody =>
    rw [keywords, Sibling.values_append, Sibling.values_comments, List.nil_append]
    have hbody := Passage.words_body?_sublist hbody
    exact (Sibling.sublist_words_readAll (fun _ => TypeDecl.sublist_words_read) _ body).trans hbody
  next =>
    rw [keywords, Sibling.values_append, Sibling.values_comments, List.nil_append]
    exact Sibling.sublist_words_ofPieces (TypeDecl.sublist_words_read hp)

/-- The keyword of a function is the word that its declaration starts with. -/
theorem sublist_words_readFunction {p : Passage} (hp : p.Aligned) (h : p.word? = some "func") :
    (readFunction p.start (p.drop 1)).keywords.Sublist p.words := by
  simp only [readFunction]
  split
  · exact Passage.singleton_sublist_words hp h
  · split
    · exact List.nil_sublist _
    · exact List.nil_sublist _

/-- The keywords of any item stand among its words in order. -/
theorem sublist_words_read {p : Passage} (hp : p.Aligned) : (read p).keywords.Sublist p.words := by
  simp only [read]
  split
  · cases (p.drop 1).word? with
    | none => exact List.nil_sublist _
    | some name => exact List.nil_sublist _
  · exact (sublist_words_readTypes (hp.drop 1)).trans (p.words_drop_sublist 1)
  next hword => exact sublist_words_readFunction hp hword
  · exact List.nil_sublist _

end Decl

namespace File

/-- The keywords of a parsed file are words of the source text, in the same order. -/
theorem sublist_words_keywords (source : String) :
    (File.parse source).keywords.Sublist (Token.words (Token.scan source.toList)) :=
  Sibling.sublist_words_readAll (fun _ => Decl.sublist_words_read) _ _

/-! ## Keywords of reported declarations -/

/-- Finding doc blocks changes no keyword and no order. -/
theorem keywords_eq_flatMap_documented (f : File) :
    f.keywords = (Sibling.documented f.items).flatMap fun d => d.1.keywords := by
  rw [keywords, ← Sibling.map_fst_documentedFrom [] f.items, List.flatMap_map]
  rfl

/-- Doc blocks apart, the entries of all type declarations are those of the file. -/
theorem keywords_entriesWithDocs_sublist (f : File) :
    ((Extract.entriesWithDocs (Sibling.documented f.items)).flatMap fun e => e.1.keywords).Sublist
      f.keywords := by
  rw [keywords_eq_flatMap_documented, Extract.entriesWithDocs, List.flatMap_assoc]
  refine List.Sublist.flatMap_right _ ?_
  rintro ⟨decl, docs⟩ -
  -- Only type declarations have entries; the keywords of functions are passed over.
  cases decl with
  | types entries =>
      rw [Decl.keywords, ← Sibling.map_fst_documentedFrom [] entries, List.flatMap_map,
        List.flatMap_map]
      exact List.Sublist.refl _
  | _ => exact List.nil_sublist _

/-- The keywords of types that are picked out of all entries. -/
theorem keywords_filterMap_sublist {α : Type} (f : File) {pick : TypeDecl × List String → Option α}
    {keyword : α → Word} (hpick : ∀ e a, pick e = some a → e.1.keywords = [keyword a]) :
    (((Extract.entriesWithDocs (Sibling.documented f.items)).filterMap pick).map keyword).Sublist
      f.keywords := by
  refine List.Sublist.trans ?_ f.keywords_entriesWithDocs_sublist
  rw [List.map_filterMap, List.filterMap_eq_flatMap_toList]
  refine List.Sublist.flatMap_right _ ?_
  intro e _
  cases hentry : pick e with
  | none => exact List.nil_sublist _
  | some a =>
      rw [hpick e a hentry]
      exact List.Sublist.refl _

/-- The keywords of documented structs stand in the file in this order. -/
theorem keywords_documentedStructs (f : File) :
    (f.documentedStructs.map fun d => Word.mk "struct" d.start).Sublist f.keywords := by
  refine f.keywords_filterMap_sublist ?_
  intro e d hstruct
  rw [Documented.struct?_eq_some hstruct]
  rfl

/-- The keywords of documented interfaces stand in the file in this order. -/
theorem keywords_documentedInterfaces (f : File) :
    (f.documentedInterfaces.map fun d => Word.mk "interface" d.start).Sublist f.keywords := by
  refine f.keywords_filterMap_sublist ?_
  intro e d hinterface
  rw [Documented.interface?_eq_some hinterface]
  rfl

def functionStarts (f : File) : List Place :=
  (Sibling.values f.items).filterMap fun
    | .function start _ _ => some start
    | _ => none

/-- The keywords of functions stand in the file in this order. -/
theorem keywords_functionStarts (f : File) :
    (f.functionStarts.map (Word.mk "func")).Sublist f.keywords := by
  rw [functionStarts, List.map_filterMap, List.filterMap_eq_flatMap_toList]
  refine List.Sublist.flatMap_right _ ?_
  intro decl _
  cases decl with
  | function start name s => exact List.Sublist.refl _
  | _ => exact List.nil_sublist _

end File
end Source
end GoSurvey
