import GoSurvey.Proofs.Diagnostics
import GoSurvey.Proofs.SourceNames

/-!
# Names in the types of declarations

The names in the type of a field, a parameter or a result are words of the source text. This file
takes the step from readings to the declarations of a parsed file.

* `ParamReading.named_readList`, `FieldReading.named_readList` — the types of parameters and fields
  have names that are words of the marks read;
* `Sibling.exists_of_mem_values_readAll` — each entry of a list is read from a passage of its text;
* `File.typeExprs` — the types of all fields, parameters and results of a file;
* `File.named_parse` — the names in these types have the form of words.
-/

namespace GoSurvey
namespace Source

/-! ## Readings of parameters -/

namespace Marks

/-- Cutting marks at some of them leaves only marks that were there. -/
theorem subset_of_mem_splitBy {p : Mark → Bool} {ms part : List Mark} (h : part ∈ splitBy p ms) :
    part ⊆ ms := by
  induction ms generalizing part with
  | nil =>
      obtain rfl : part = [] := by simpa [splitBy] using h
      exact List.Subset.refl _
  | cons m ms ih =>
      simp only [splitBy, List.foldr_cons] at h ih
      split at h
      -- A mark at which the list is cut belongs to no part.
      · rcases List.mem_cons.1 h with rfl | h
        · exact List.nil_subset _
        · exact List.Subset.trans (ih h) (List.subset_cons_self m ms)
      · split at h
        next =>
          obtain rfl : part = [m] := by simpa using h
          simp
        next first later hparts =>
          -- Any other mark goes to the first part.
          rcases List.mem_cons.1 h with rfl | h
          · exact List.cons_subset_cons m (ih (by simp [hparts]))
          · have hpart : part ⊆ ms := ih (by simp [hparts, h])
            exact List.Subset.trans hpart (List.subset_cons_self m ms)

theorem subset_of_afterDots? {ms rest : List Mark} (h : afterDots? ms = some rest) :
    rest ⊆ ms := by
  unfold afterDots? at h
  split at h
  next a b c later =>
    obtain ⟨-, rfl⟩ : _ ∧ later = rest := by simpa using h
    exact fun m hm => by simp [hm]
  next => simp at h

end Marks

namespace ParamReading

/-- Takes one more stretch between commas for a part, unless it is empty; the part after it starts at
the first component. -/
def addPart (found : Nat × List Part) (marks : List Mark) : Nat × List Part :=
  (found.1 + marks.length + 1,
    if marks.isEmpty then found.2 else ⟨found.1, marks⟩ :: found.2)

/-- The parts of a list are collected from its left end on. -/
theorem parts_eq_foldl (ms : List Mark) :
    parts ms = ((Marks.splitBy (·.isSymbol ',') ms).foldl addPart (0, [])).2.reverse := rfl

/-- Every part that is collected was found before or is one of those still to come. -/
theorem mem_of_mem_foldl_addPart {part : Part} {l : List (List Mark)} {found : Nat × List Part}
    (h : part ∈ (l.foldl addPart found).2) : part ∈ found.2 ∨ part.marks ∈ l := by
  induction l generalizing found with
  | nil => exact Or.inl h
  | cons marks l ih =>
      rcases ih h with hfound | hlater
      · simp only [addPart] at hfound
        split at hfound
        · exact Or.inl hfound
        · rcases List.mem_cons.1 hfound with rfl | hfound
          · exact Or.inr List.mem_cons_self
          · exact Or.inl hfound
      · exact Or.inr (List.mem_cons_of_mem marks hlater)

/-- A part of a list is made of marks of the list. -/
theorem subset_of_mem_parts {ms : List Mark} {part : Part} (h : part ∈ parts ms) :
    part.marks ⊆ ms := by
  rw [parts_eq_foldl, List.mem_reverse] at h
  rcases mem_of_mem_foldl_addPart h with hnil | hmem
  · simp at hnil
  · exact Marks.subset_of_mem_splitBy hmem

/-- The names in the types of all items have the form of words. -/
def Named (rs : List ParamReading) : Prop :=
  ∀ r ∈ rs, r.type.form.Named

section Parts

variable {part : Part} {r : ParamReading}

theorem named_of_namedIn (hms : Mark.Named part.marks) (h : namedIn part = some r) :
    r.type.form.Named := by
  unfold namedIn at h
  split at h
  next => simp at h
  next m ms hmarks =>
    rw [hmarks] at hms
    rcases Option.bind_eq_some_iff.1 h with ⟨name, -, h⟩
    rcases Option.map_eq_some_iff.1 h with ⟨type, htype, rfl⟩
    exact TypeReading.named_of_heaviest_sole (List.forall_mem_cons.1 hms).2 htype

theorem named_of_variadicIn (hms : Mark.Named part.marks) (h : variadicIn part = some r) :
    r.type.form.Named := by
  unfold variadicIn at h
  split at h
  -- The dots come first, and all that follows is the type.
  next ms hdots =>
    rcases Option.map_eq_some_iff.1 h with ⟨type, htype, rfl⟩
    exact TypeReading.named_of_heaviest_sole (hms.mono (Marks.subset_of_afterDots? hdots)) htype
  next =>
    split at h
    next => simp at h
    -- A name stands before the dots.
    next m ms hmarks =>
      rw [hmarks] at hms
      rcases Option.bind_eq_some_iff.1 h with ⟨name, -, h⟩
      rcases Option.bind_eq_some_iff.1 h with ⟨rest, hdots, h⟩
      rcases Option.map_eq_some_iff.1 h with ⟨type, htype, rfl⟩
      have hrest : Mark.Named rest :=
        (Mark.Named.mono (List.forall_mem_cons.1 hms).2) (Marks.subset_of_afterDots? hdots)
      exact TypeReading.named_of_heaviest_sole hrest htype

theorem named_of_typeIn (hms : Mark.Named part.marks) (h : typeIn part = some r) :
    r.type.form.Named := by
  have hplain : ∀ type, TypeReading.heaviest (TypeReading.sole false part.marks) = some type →
      type.form.Named := fun type htype => TypeReading.named_of_heaviest_sole hms htype
  unfold typeIn at h
  rcases Option.map_eq_some_iff.1 h with ⟨type, htype, rfl⟩
  -- Another weight for brackets after a name leaves the form as it is.
  split at htype
  · split at htype
    · rcases Option.bind_eq_some_iff.1 htype with ⟨s, hs, htype⟩
      rcases Option.map_eq_some_iff.1 htype with ⟨w, -, rfl⟩
      exact hplain s hs
    · exact hplain type htype
  · exact hplain type htype

/-- An item by itself keeps to the words of its part, whichever way it is read. -/
theorem named_of_ofPart (hms : Mark.Named part.marks) (h : ofPart part = some r) :
    r.type.form.Named := by
  unfold ofPart at h
  split at h
  · exact named_of_typeIn hms h
  · rcases Option.or_eq_some_iff.1 h with hvariadic | ⟨-, h⟩
    · exact named_of_variadicIn hms hvariadic
    · rcases Option.or_eq_some_iff.1 h with htype | ⟨-, hnamed⟩
      · exact named_of_typeIn hms htype
      · exact named_of_namedIn hms hnamed

end Parts

/-- The names in the types of all items of a suffix have the form of words. -/
structure Suffix.Named (s : Suffix) : Prop where
  items : ∀ items, s.items = some items → ParamReading.Named items.list
  run : ∀ r, s.run = some r → r.last.type.form.Named ∧ ParamReading.Named r.later.list

/-- Of two readings one is chosen; none is made up. -/
theorem better_eq (start : Nat) (types names : Option Items) :
    better start types names = types ∨ better start types names = names := by
  unfold better
  split
  · exact Or.inr rfl
  · exact Or.inl rfl
  · split
    · exact Or.inr rfl
    · split
      · exact Or.inl rfl
      · split
        · exact Or.inl rfl
        · exact Or.inr rfl

/-- One part more keeps the words of all readings of a list. -/
theorem Suffix.Named.extend {part : Part} {later : Suffix} (hms : Mark.Named part.marks)
    (h : later.Named) : (extendSuffix part later).Named where
  items := by
    intro items hitems
    simp only [extendSuffix] at hitems
    rcases better_eq part.start ((ofPart part).bind fun p => later.items.map (Items.cons p))
      (if startsWithTypeWord part then none
        else (loneWord? part).bind fun name => later.run.map (Run.toItems part.start name))
      with halone | hnames
    · -- The part is an item by itself.
      rw [halone] at hitems
      rcases Option.bind_eq_some_iff.1 hitems with ⟨p, hp, hitems⟩
      rcases Option.map_eq_some_iff.1 hitems with ⟨rest, hrest, rfl⟩
      exact List.forall_mem_cons.2 ⟨named_of_ofPart hms hp, h.items rest hrest⟩
    · -- The part is a lone name, and its type stands at the end of the run.
      rw [hnames] at hitems
      split at hitems
      · simp at hitems
      · rcases Option.bind_eq_some_iff.1 hitems with ⟨name, -, hitems⟩
        rcases Option.map_eq_some_iff.1 hitems with ⟨r, hr, rfl⟩
        exact List.forall_mem_cons.2 (h.run r hr)
  run := by
    intro r hr
    simp only [extendSuffix] at hr
    split at hr
    · rcases Option.map_eq_some_iff.1 hr with ⟨s, hs, rfl⟩
      exact h.run s hs
    · -- A run ends with a name and its type.
      rcases Option.bind_eq_some_iff.1 hr with ⟨p, hp, hr⟩
      rcases Option.map_eq_some_iff.1 hr with ⟨items, hitems, rfl⟩
      exact ⟨named_of_namedIn hms hp, h.items items hitems⟩

theorem Suffix.named_foldr {parts : List Part} (hparts : ∀ part ∈ parts, Mark.Named part.marks) :
    (parts.foldr extendSuffix ⟨some ⟨0, []⟩, none⟩).Named := by
  induction parts with
  | nil =>
      refine ⟨?_, by simp⟩
      intro items hitems
      cases hitems
      simp [ParamReading.Named]
  | cons part parts ih =>
      rcases List.forall_mem_cons.1 hparts with ⟨hpart, hrest⟩
      exact (ih hrest).extend hpart

/-- The items of a parameter list keep to its words. -/
theorem named_readList {ms : List Mark} (hms : Mark.Named ms) : Named (readList ms) := by
  have hparts : ∀ part ∈ parts ms, Mark.Named part.marks := fun part hpart =>
    hms.mono (subset_of_mem_parts hpart)
  unfold readList
  split
  next items hitems => exact (Suffix.named_foldr hparts).items items hitems
  next =>
    -- No reading of the whole list: what is left are the parts that can be read by themselves.
    intro r hr
    rcases List.mem_filterMap.1 hr with ⟨part, hpart, hread⟩
    exact named_of_ofPart (hparts part hpart) hread

end ParamReading

/-! ## Readings of fields -/

namespace FieldReading

/-- The names in the types of all fields have the form of words. -/
def Named (fs : List FieldReading) : Prop :=
  ∀ f ∈ fs, f.type.form.Named

theorem named_filterMap_complete {names : List String} {star : Bool} {typeStart : Nat}
    {ms : List Mark} {rs : List TypeReading} (hrs : TypeReading.Named rs) :
    Named (rs.filterMap (complete names star typeStart ms)) := by
  intro f hf
  rcases List.mem_filterMap.1 hf with ⟨r, hr, hcomplete⟩
  rcases Option.ite_none_right_eq_some.1 hcomplete with ⟨-, hsome⟩
  cases hsome
  exact hrs r hr

/-- Embedded types weigh otherwise than types elsewhere, but have the same form. -/
theorem exists_of_mem_embeddedTypes {star : Bool} {id : String} {ms : List Mark} {r : TypeReading}
    (hr : r ∈ embeddedTypes star id ms) : ∃ s ∈ TypeReading.named true id ms, r.form = s.form := by
  rcases List.mem_filterMap.1 hr with ⟨s, hs, hr⟩
  refine ⟨s, hs, ?_⟩
  split at hr
  · cases hr
    rfl
  · split at hr
    · split at hr
      · cases hr
        rfl
      · rcases Option.map_eq_some_iff.1 hr with ⟨w, -, rfl⟩
        rfl
    · cases hr
      rfl
  · cases hr
    rfl

/-- An embedded type after a name keeps to the words of the declaration. -/
theorem named_embeddedTypes {star : Bool} {id : String} {ms : List Mark} (hid : IsName id)
    (hms : Mark.Named ms) : TypeReading.Named (embeddedTypes star id ms) := by
  intro r hr
  rcases exists_of_mem_embeddedTypes hr with ⟨s, hs, hform⟩
  rw [hform]
  exact TypeReading.named_named hid hms s hs

/-- An embedded type after a tilde keeps to the words of the declaration. -/
theorem named_embeddedAfterTilde {ms : List Mark} (hms : Mark.Named ms) :
    TypeReading.Named (embeddedAfterTilde ms) := fun r hr =>
  TypeReading.named_readAll hms r (List.mem_filter.1 hr).1

theorem named_readAll {ms : List Mark} (hms : Mark.Named ms) : Named (readAll ms) := by
  unfold readAll
  split
  · simp [Named]
  next m rest =>
    rcases List.forall_mem_cons.1 hms with ⟨hword, hrest⟩
    split
    · -- a star
      split
      · simp [Named]
      next n later =>
        rcases List.forall_mem_cons.1 hrest with ⟨hnext, hlater⟩
        split
        next id hsign =>
          exact named_filterMap_complete (named_embeddedTypes (hnext id hsign) hlater)
        next => exact named_filterMap_complete (named_embeddedAfterTilde hrest)
        next => simp [Named]
    · -- a tilde
      exact named_filterMap_complete (named_embeddedAfterTilde hms)
    next id hsign => -- a name
      have hembedded : Named ((embeddedTypes false id rest).filterMap
          (complete [] false 0 (m :: rest))) :=
        named_filterMap_complete (named_embeddedTypes (hword id hsign) hrest)
      split
      · exact hembedded
      · split
        · exact hembedded
        · intro f hf
          rcases List.mem_append.1 hf with hf | hf
          · have hafter : ∀ n, Mark.Named ((m :: _).drop n) := fun n =>
              hms.mono (List.drop_subset n _)
            exact named_filterMap_complete (TypeReading.named_readAll (hafter _)) f hf
          · exact hembedded f hf
    · simp [Named]

/-- The names in the types of all fields have the form of words. -/
def Fields.Named (fs : Fields) : Prop :=
  FieldReading.Named (fs.list.map (·.2))

/-- Of two readings of a struct one is chosen. -/
theorem better_eq (isFirst : Bool) (a b : Fields) :
    better isFirst a b = a ∨ better isFirst a b = b := by
  simp only [better]
  split
  all_goals
    split
    · exact Or.inr rfl
    · exact Or.inl rfl

theorem foldl_better_mem (isFirst : Bool) (first : Fields) (more : List Fields) :
    more.foldl (better isFirst) first ∈ first :: more := by
  induction more generalizing first with
  | nil => exact List.mem_cons_self
  | cons next more ih =>
      rw [List.foldl_cons]
      rcases better_eq isFirst first next with hbetter | hbetter
      · rw [hbetter]
        rcases List.mem_cons.1 (ih first) with heq | hmem
        · exact List.mem_cons.2 (Or.inl heq)
        · exact List.mem_cons_of_mem _ (List.mem_cons_of_mem _ hmem)
      · rw [hbetter]
        exact List.mem_cons_of_mem _ (ih next)

/-- The fields read from some mark on keep to the words, if those of all later marks do. -/
theorem named_readEnd {isFirst : Bool} {left : Nat} {ms : List Mark} {later : List Fields}
    (hms : Mark.Named ms) (hlater : ∀ fs ∈ later, fs.Named) :
    (readEnd isFirst left ms later).Named := by
  have hnone : Fields.Named ⟨0, []⟩ := by simp [Fields.Named, FieldReading.Named]
  -- A field that is read is followed by the fields of the end that it leaves, if there is one.
  have hafter : ∀ n, ((later.drop (n - 1)).head?.getD ⟨0, []⟩).Named := by
    intro n
    cases hhead : (later.drop (n - 1)).head? with
    | none => exact hnone
    | some fs => exact hlater fs (List.mem_of_mem_drop (List.mem_of_head? hhead))
  cases hmap : (readAll ms).map fun f =>
      ((later.drop (f.size - 1)).head?.getD ⟨0, []⟩).cons left f with
  | cons first more =>
      have hall : ∀ fs ∈ first :: more, fs.Named := by
        intro fs hfs
        rw [← hmap] at hfs
        rcases List.mem_map.1 hfs with ⟨f, hf, rfl⟩
        exact List.forall_mem_cons.2 ⟨named_readAll hms f hf, hafter f.size⟩
      simp only [readEnd, hmap]
      exact hall _ (foldl_better_mem isFirst first more)
  | nil =>
      simp only [readEnd, hmap]
      -- No field starts here, and a mark is passed over.
      cases ms with
      | nil => exact hnone
      | cons m rest =>
          simp only
          split
          · exact hafter 1
          · exact hafter 1

/-- Goes one mark back: the number of marks passed, these marks, and the fields of all their ends. -/
def readBack (count : Nat) (m : Mark) (later : Nat × List Mark × List Fields) :
    Nat × List Mark × List Fields :=
  (later.1 + 1, m :: later.2.1,
    readEnd (later.1 + 1 == count) (later.1 + 1) (m :: later.2.1) later.2.2 :: later.2.2)

/-- All ends of a list are read in one pass from its right end on. -/
theorem readEnds_eq_foldr (count : Nat) (ms : List Mark) :
    readEnds count ms = (ms.foldr (readBack count) (0, [], [⟨0, []⟩])).2.2 := rfl

/-- The pass carries the marks that it has gone through. -/
theorem marks_foldr_readBack (count : Nat) (ms : List Mark) :
    (ms.foldr (readBack count) (0, [], [⟨0, []⟩])).2.1 = ms := by
  induction ms with
  | nil => rfl
  | cons m ms ih => exact congrArg (m :: ·) ih

/-- The fields of every end of a list keep to its words. -/
theorem named_readEnds (count : Nat) {ms : List Mark} (hms : Mark.Named ms) :
    ∀ fs ∈ readEnds count ms, fs.Named := by
  rw [readEnds_eq_foldr]
  induction ms with
  | nil => simp [Fields.Named, FieldReading.Named]
  | cons m ms ih =>
      have hlater := ih (List.forall_mem_cons.1 hms).2
      refine List.forall_mem_cons.2 ⟨named_readEnd ?_ hlater, hlater⟩
      rwa [marks_foldr_readBack]

/-- The fields of a struct keep to its words. -/
theorem named_readList {ms : List Mark} (hms : Mark.Named ms) :
    Named ((readList ms).map (·.2)) := by
  cases hends : readEnds ms.length ms with
  | nil => simp [readList, hends, Named]
  | cons fields more =>
      have hnamed : fields.Named := named_readEnds ms.length hms fields (by simp [hends])
      simpa [readList, hends, Fields.Named, List.map_map, Function.comp_def] using hnamed

end FieldReading

/-! ## Passages -/

/-- The words among the tokens and among the marks of a passage have the form of words. -/
structure Passage.Named (p : Passage) : Prop where
  tokens : Token.Named p.tokens
  marks : Mark.Named p.marks

namespace Passage

/-- A passage of tokens keeps to their words, in its marks as well. -/
theorem named_ofTokens {ts : List Token} (h : Token.Named ts) : (ofTokens ts).Named where
  tokens := by
    refine h.mono ?_
    intro t ht
    rw [← Pieces.tokens_ofTokens ts]
    exact List.mem_append_left _ ht
  marks := Marks.named_ofTokens h

theorem Named.drop {p : Passage} (h : p.Named) (n : Nat) : (p.drop n).Named :=
  ⟨h.tokens.mono (p.tokens_drop_sublist n).subset, h.marks.mono (List.drop_subset n p.marks)⟩

theorem Named.body? {p : Passage} {s : String} {body : List Token} (h : p.Named)
    (hbody : p.body? s = some body) : Token.Named body := by
  rcases body?_eq_some hbody with ⟨piece, later, -, hsub⟩
  exact h.tokens.mono ((List.sublist_append_right piece.lead body).trans hsub).subset

end Passage

/-! ## Types in declarations -/

def Field.typeExpr : Field → TypeExpr
  | named _ _ type _ => type
  | embedded _ type _ => type

def ResultSpec.typeExprs : ResultSpec → List TypeExpr
  | absent => []
  | single type => [type]
  | list items => items.map (·.type)

def Signature.typeExprs (s : Signature) : List TypeExpr :=
  s.params.map (·.type) ++ s.result.typeExprs

def Element.typeExprs : Element → List TypeExpr
  | method _ s => s.typeExprs
  | constraint => []

/-- The types of the fields of a struct, and those in the methods of an interface. -/
def TypeDecl.typeExprs : TypeDecl → List TypeExpr
  | spec _ (.struct _ fields) => fields.map Field.typeExpr
  | spec _ (.interface _ elements) => (Sibling.values elements).flatMap Element.typeExprs
  | _ => []

/-- The types of fields, parameters and results in a declaration. -/
def Decl.typeExprs : Decl → List TypeExpr
  | types entries => (Sibling.values entries).flatMap TypeDecl.typeExprs
  | function _ _ s => s.typeExprs
  | method _ _ s => s.typeExprs
  | _ => []

def File.typeExprs (f : File) : List TypeExpr :=
  (Sibling.values f.items).flatMap Decl.typeExprs

def TypeExpr.Named (ts : List TypeExpr) : Prop :=
  ∀ t ∈ ts, t.form.Named

namespace TypeExpr

variable {α : Type}

theorem named_nil : Named [] := by
  simp [Named]

theorem named_flatMap {l : List α} {f : α → List TypeExpr} (h : ∀ a ∈ l, Named (f a)) :
    Named (l.flatMap f) := by
  intro t ht
  rcases List.mem_flatMap.1 ht with ⟨a, ha, ht⟩
  exact h a ha t ht

end TypeExpr

namespace Sibling

variable {α : Type}

/-- The items of two lists, one after the other, are those of each. -/
theorem values_append (l m : List (Sibling α)) : values (l ++ m) = values l ++ values m :=
  List.filterMap_append

@[simp] theorem values_comments (trivia : List Token) :
    values (comments trivia : List (Sibling α)) = [] := by
  refine List.filterMap_eq_nil_iff.2 ?_
  intro s hs
  rcases List.mem_map.1 hs with ⟨t, -, rfl⟩
  rfl

/-- Pieces make one item at most, the one they are read as. -/
theorem eq_of_mem_values_ofPieces {ps : List Piece} {a value : α}
    (h : a ∈ values (ofPieces ps value)) : a = value := by
  unfold ofPieces at h
  split at h
  · simpa [values] using h
  · simp [values] at h

/-- Each entry is read from a stretch of the pieces and one of the marks. -/
theorem exists_of_mem_values_readPassage {size : List Mark → Nat} {read : Passage → α}
    {ps : List Piece} {ms : List Mark} {a : α} (h : a ∈ values (readPassage size read ps ms)) :
    ∃ p : Passage, a = read p ∧ p.pieces <:+: ps ∧ p.marks <:+: ms := by
  fun_induction readPassage size read ps ms with
  | case1 => simp [values] at h
  | case2 p ps ms n entry ihTerminated ih =>
      rw [values_append, values_append, values_comments, List.nil_append] at h
      rcases List.mem_append.1 h with hentry | hlater
      · have hpieces : entry <+: p :: ps := List.take_prefix _ _
        have hmarks : ms.take n <+: ms := List.take_prefix _ _
        exact ⟨⟨entry, ms.take n⟩, eq_of_mem_values_ofPieces hentry, hpieces.isInfix, hmarks.isInfix⟩
      · -- What stands after the entry is a part of the passage, a terminator or not.
        have hrest : ps.drop (n - 1) <:+: p :: ps :=
          ((List.drop_suffix _ _).trans (List.suffix_cons p ps)).isInfix
        split at hlater
        next => simp [values] at hlater
        next q qs hdrop =>
          rw [hdrop] at hrest
          split at hlater
          · rw [values_append, values_comments, List.nil_append] at hlater
            rcases ihTerminated q qs hdrop hlater with ⟨inner, hread, hpieces, hmarks⟩
            have hpieces' : inner.pieces <:+: q :: qs :=
              hpieces.trans (List.suffix_cons q qs).isInfix
            exact ⟨inner, hread, hpieces'.trans hrest,
              hmarks.trans (List.drop_suffix _ _).isInfix⟩
          · rcases ih q qs hdrop hlater with ⟨inner, hread, hpieces, hmarks⟩
            exact ⟨inner, hread, hpieces.trans hrest, hmarks.trans (List.drop_suffix _ _).isInfix⟩

/-- The entries of a list are read from stretches of its tokens. -/
theorem exists_infix_of_mem_values_readAll {size : Nat → List Mark → Nat} {read : Passage → α}
    {ts : List Token} {a : α} (h : a ∈ values (readAll size read ts)) :
    ∃ p : Passage, a = read p ∧ p.tokens <:+: ts ∧ p.marks ⊆ Marks.ofTokens ts := by
  simp only [readAll, values_append, values_comments, List.append_nil] at h
  rcases exists_of_mem_values_readPassage h with ⟨p, hread, ⟨before, after, hpieces⟩, hmarks⟩
  refine ⟨p, hread, ?_, hmarks.subset⟩
  refine ⟨before.flatMap Piece.tokens,
    after.flatMap Piece.tokens ++ (Pieces.ofTokens ts).trailing, ?_⟩
  calc before.flatMap Piece.tokens ++ p.tokens ++
        (after.flatMap Piece.tokens ++ (Pieces.ofTokens ts).trailing)
      = (before ++ p.pieces ++ after).flatMap Piece.tokens ++ (Pieces.ofTokens ts).trailing := by
        simp [Passage.tokens]
    _ = ts := by rw [hpieces, Pieces.tokens_ofTokens]

/-- What is read between brackets is read from passages that keep to their words. -/
theorem exists_of_mem_values_readAll {size : Nat → List Mark → Nat} {read : Passage → α}
    {ts : List Token} {a : α} (hts : Token.Named ts) (h : a ∈ values (readAll size read ts)) :
    ∃ p : Passage, a = read p ∧ p.Named := by
  rcases exists_infix_of_mem_values_readAll h with ⟨p, hread, htokens, hmarks⟩
  exact ⟨p, hread, hts.mono htokens.subset, (Marks.named_ofTokens hts).mono hmarks⟩

end Sibling

/-! ## Names in declarations -/

/-- Placing the items of a list changes none of their types. -/
theorem ParamItem.named_ofReadings {rs : List ParamReading} (hrs : ParamReading.Named rs)
    (passed : Nat) (p : Passage) : TypeExpr.Named ((ofReadings passed p rs).map (·.type)) := by
  induction rs generalizing passed p with
  | nil => exact TypeExpr.named_nil
  | cons r rs ih =>
      rcases List.forall_mem_cons.1 hrs with ⟨hfirst, hrest⟩
      exact List.forall_mem_cons.2 ⟨hfirst, ih hrest _ _⟩

theorem ParamItem.named_readList {body : List Token} (h : Token.Named body) :
    TypeExpr.Named ((readList body).map (·.type)) :=
  named_ofReadings (ParamReading.named_readList (Passage.named_ofTokens h).marks) 0 _

theorem Signature.named_read {p : Passage} (h : p.Named) : TypeExpr.Named (read p).typeExprs := by
  intro t ht
  rcases List.mem_append.1 ht with hparam | hresult
  -- The parameters stand between parentheses.
  · cases hbody : p.body? "(" with
    | none => simp [read, hbody] at hparam
    | some body =>
        simp only [read, hbody, Option.map_some, Option.getD_some] at hparam
        exact ParamItem.named_readList (h.body? hbody) t hparam
  -- The result is a list in parentheses, or one type, or nothing.
  · have hafter := h.drop 1
    simp only [read, ResultSpec.read] at hresult
    split at hresult
    · simp [ResultSpec.typeExprs] at hresult
    · split at hresult
      next body hbody => exact ParamItem.named_readList (hafter.body? hbody) t hresult
      next =>
        split at hresult
        next r hchoose =>
          obtain rfl := List.mem_singleton.1 hresult
          exact TypeReading.named_of_choose hafter.marks hchoose
        next => simp [ResultSpec.typeExprs] at hresult

/-- Placing the fields of a struct changes none of their types. -/
theorem Field.named_ofReadings {rs : List (Nat × FieldReading)}
    (hrs : FieldReading.Named (rs.map (·.2))) (passed : Nat) (p : Passage) :
    TypeExpr.Named ((ofReadings passed p rs).map typeExpr) := by
  induction rs generalizing passed p with
  | nil => exact TypeExpr.named_nil
  | cons r rs ih =>
      rcases List.forall_mem_cons.1 hrs with ⟨hfirst, hrest⟩
      refine List.forall_mem_cons.2 ⟨?_, ih hrest _ _⟩
      simp only [ofReading]
      split
      · exact hfirst
      · exact hfirst

theorem Field.named_readAll {body : List Token} (h : Token.Named body) :
    TypeExpr.Named ((readAll body).map typeExpr) :=
  named_ofReadings (FieldReading.named_readList (Passage.named_ofTokens h).marks) 0 _

theorem Element.named_read {p : Passage} (h : p.Named) : TypeExpr.Named (read p).typeExprs := by
  unfold read
  split
  · split
    · exact Signature.named_read (h.drop 1)
    · exact TypeExpr.named_nil
  · exact TypeExpr.named_nil

/-- The types in a struct or an interface keep to the words of its passage. -/
theorem TypeDecl.named_spec (name : String) {p : Passage} (h : p.Named) :
    TypeExpr.Named (TypeDecl.spec name (TypeBody.read p)).typeExprs := by
  simp only [TypeBody.read]
  -- A struct has fields, an interface has methods; other types have no parts that are reported.
  split
  next => exact TypeExpr.named_nil
  next body hbody =>
    have hinside : Token.Named body := (h.drop 1).body? hbody
    split
    · exact Field.named_readAll hinside
    · split
      · refine TypeExpr.named_flatMap ?_
        intro element helement
        rw [Sibling.values_append, Sibling.values_comments, List.nil_append] at helement
        rcases Sibling.exists_of_mem_values_readAll hinside helement with ⟨q, rfl, hq⟩
        exact Element.named_read hq
      · exact TypeExpr.named_nil

/-- The types of an entry keep to its words, behind type parameters too. -/
theorem TypeDecl.named_read {p : Passage} (h : p.Named) : TypeExpr.Named (read p).typeExprs := by
  simp only [read]
  split
  · exact TypeExpr.named_nil
  · split
    · exact TypeExpr.named_nil
    · exact named_spec _ ((h.drop 1).drop _)

namespace Decl

/-- The types of a type declaration keep to its words. -/
theorem named_readTypes {p : Passage} (h : p.Named) : TypeExpr.Named (readTypes p).typeExprs := by
  simp only [readTypes]
  split
  all_goals
    refine TypeExpr.named_flatMap ?_
    intro entry hentry
    rw [Sibling.values_append, Sibling.values_comments, List.nil_append] at hentry
  -- Entries in parentheses.
  next body hbody =>
    rcases Sibling.exists_of_mem_values_readAll (h.body? hbody) hentry with ⟨q, rfl, hq⟩
    exact TypeDecl.named_read hq
  next =>
    -- A single entry.
    rw [Sibling.eq_of_mem_values_ofPieces hentry]
    exact TypeDecl.named_read h

theorem named_readFunction {start : Place} {p : Passage} (h : p.Named) :
    TypeExpr.Named (readFunction start p).typeExprs := by
  simp only [readFunction]
  split
  · -- Type parameters may stand before the signature.
    split
    · exact Signature.named_read ((h.drop 1).drop 1)
    · exact Signature.named_read (h.drop 1)
  · split
    · exact Signature.named_read (h.drop 2)
    · exact TypeExpr.named_nil

theorem named_read {p : Passage} (h : p.Named) : TypeExpr.Named (read p).typeExprs := by
  simp only [read]
  split
  · cases (p.drop 1).word? with
    | none => exact TypeExpr.named_nil
    | some name => exact TypeExpr.named_nil
  · exact named_readTypes (h.drop 1)
  · exact named_readFunction (h.drop 1)
  · exact TypeExpr.named_nil

end Decl

/-- The names in the types of all fields, parameters and results of a parsed file have the form of
words. -/
theorem File.named_parse (source : String) : TypeExpr.Named (File.parse source).typeExprs := by
  refine TypeExpr.named_flatMap ?_
  intro decl hdecl
  rcases Sibling.exists_of_mem_values_readAll (Token.named_scan source.toList) hdecl
    with ⟨p, rfl, hp⟩
  exact Decl.named_read hp

end Source
end GoSurvey
