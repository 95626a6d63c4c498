import Mathlib.Data.List.Forall2
import GoSurvey.Source.TypeExpr

/-!
# One mark for each piece

Pieces and marks are made from the same tokens in two ways: pieces by a count of open brackets, marks
by a stack of them. This file shows that both take the same tokens together, so that a reader of
marks knows what it reads of the pieces.

* `Mark.IsOf` — what a mark tells of its piece;
* `Marking.InStep` — that the two ways have the same brackets open;
* `Marking.InStep.addsMarksOf` — taken together, the tokens add one mark for each piece;
* `Passage.forall₂_isOf_ofTokens` — the marks of a passage are those of its pieces, in order.
-/

namespace GoSurvey
namespace Source

def Sign.isGroup : Sign → Bool
  | parens _ | squares _ | braces => true
  | _ => false

def Chunk.HasSign : Chunk → Sign → Prop
  | leaf t, s => s = Sign.ofToken t
  | group _ _ _, s => s.isGroup = true

/-- Whether a mark is that of a piece: it has the sign of its chunk, and tells whether there is a
comment before it. What stands before the chunk is trivia, and the chunk is none. -/
structure Mark.IsOf (p : Piece) (m : Mark) : Prop where
  sign : p.chunk.HasSign m.sign
  commented : m.commented = p.commented
  lead_trivia : ∀ t ∈ p.lead, t.isTrivia = true
  first_token : p.chunk.first.isTrivia = false

namespace Marking

def depth (s : Marking) : Nat :=
  s.outer.length + (s.braces.map (·.2 + 1)).getD 0

def outsideMarks (s : Marking) : List Mark :=
  (s.outer.getLast?.map Enclosure.before).getD s.marks

def outsideGap (s : Marking) : Gap :=
  (s.outer.getLast?.map Enclosure.gap).getD ((s.braces.map Prod.fst).getD s.gap)

/-- The two ways to take tokens together are in step: they have the same number of brackets open,
and outside of these the same trivia since the last piece. -/
structure InStep (lead : List Token) (inside : Option OpenGroup) (s : Marking) : Prop where
  depth : s.depth = (inside.map (·.depth + 1)).getD 0
  commented : s.outsideGap.commented = lead.any (·.kind == .comment)
  trivia : ∀ t ∈ lead, t.isTrivia = true
  opening : ∀ g ∈ inside, g.opening.isTrivia = false

theorem not_isTrivia_of_isSymbol {t : Token} {c : String} (h : t.isSymbol c = true) :
    t.isTrivia = false := by
  simp only [Token.isSymbol, Bool.and_eq_true, beq_iff_eq] at h
  simp [Token.isTrivia, h.1]

theorem not_isTrivia_of_opens {t : Token} (h : t.opens = true) : t.isTrivia = false := by
  simp only [Token.opens, Bool.or_eq_true] at h
  rcases h with (h | h) | h
  all_goals exact not_isTrivia_of_isSymbol h

theorem not_isTrivia_of_closes {t : Token} (h : t.closes = true) : t.isTrivia = false := by
  simp only [Token.closes, Bool.or_eq_true] at h
  rcases h with (h | h) | h
  all_goals exact not_isTrivia_of_isSymbol h

theorem not_brace_of_not_opens {t : Token} (h : t.opens = false) : t.isSymbol "\x7b" = false := by
  simp only [Token.opens, Bool.or_eq_false_iff] at h
  exact h.2

/-! ## One token -/

/-- Nothing happens outside of brackets. -/
structure SameOutside (s s' : Marking) : Prop where
  marks : s'.outsideMarks = s.outsideMarks
  gap : s'.outsideGap = s.outsideGap

/-- The text in brackets becomes one mark. -/
structure Enclosed (s s' : Marking) : Prop where
  marks : ∃ sign : Sign, sign.isGroup = true ∧
    s'.outsideMarks = s.outsideGap.mark sign :: s.outsideMarks
  gap : s'.outsideGap = Gap.empty

section Outside

variable {s : Marking} {t : Token} (hdepth : s.depth = 0)

include hdepth

theorem outer_eq_nil_of_depth : s.outer = [] ∧ s.braces = none := by
  rcases s with ⟨marks, gap, outer, braces⟩
  cases braces with
  | none => simpa [depth] using hdepth
  | some b => simp [depth] at hdepth

/-- Outside of all brackets a token that is no part of the text widens the gap. -/
theorem take_trivia (ht : t.isTrivia = true) :
    (s.take t).depth = 0 ∧ (s.take t).outsideMarks = s.outsideMarks ∧
      (s.take t).outsideGap = s.outsideGap.pass t := by
  rcases outer_eq_nil_of_depth hdepth with ⟨houter, hbraces⟩
  simp [take, hbraces, ht, depth, outsideMarks, outsideGap, houter]

/-- An opening token leaves the marks outside as they are. -/
theorem take_opening (ht : t.opens = true) :
    (s.take t).depth = 1 ∧ SameOutside s (s.take t) := by
  rcases outer_eq_nil_of_depth hdepth with ⟨houter, hbraces⟩
  have htrivia := not_isTrivia_of_opens ht
  by_cases hbrace : t.isSymbol "\x7b" = true
  · refine ⟨?_, ?_, ?_⟩
    all_goals simp [take, hbraces, htrivia, hbrace, depth, outsideMarks, outsideGap, houter]
  · refine ⟨?_, ?_, ?_⟩
    all_goals simp [take, hbraces, htrivia, hbrace, ht, depth, outsideMarks, outsideGap, houter]

/-- Any other token outside of all brackets is a mark of its own. -/
theorem take_leaf (htrivia : t.isTrivia = false) (hopens : t.opens = false) :
    (s.take t).depth = 0 ∧
      (s.take t).outsideMarks = s.outsideGap.mark (Sign.ofToken t) :: s.outsideMarks ∧
      (s.take t).outsideGap = Gap.empty := by
  rcases outer_eq_nil_of_depth hdepth with ⟨houter, hbraces⟩
  have hbrace := not_brace_of_not_opens hopens
  simp [take, hbraces, htrivia, hbrace, hopens, put, depth, outsideMarks, outsideGap, houter]

end Outside

section Inside

variable {s : Marking} {t : Token} {n : Nat} (hdepth : s.depth = n + 1)

include hdepth

/-- Inside of brackets there is always an enclosing text, or braces that hide everything. -/
theorem inside_cases :
    (∃ gap k, s.braces = some (gap, k) ∧ s.outer.length + k = n) ∨
      (s.braces = none ∧ ∃ e outer, s.outer = e :: outer ∧ outer.length = n) := by
  rcases s with ⟨marks, gap, outer, braces⟩
  cases braces with
  | some b => exact Or.inl ⟨b.1, b.2, rfl, by simpa [depth, ← Nat.add_assoc] using hdepth⟩
  | none =>
      cases outer with
      | nil => simp [depth] at hdepth
      | cons e outer => exact Or.inr ⟨rfl, e, outer, rfl, by simpa [depth] using hdepth⟩

/-- Inside of brackets an opening token goes one level down. -/
theorem take_nested_opening (ht : t.opens = true) :
    (s.take t).depth = n + 2 ∧ SameOutside s (s.take t) := by
  -- Inside of braces only the depth is counted; in other brackets a text is gathered.
  rcases inside_cases hdepth with ⟨gap, k, hbraces, hlength⟩ | ⟨hbraces, e, outer, houter, hlength⟩
  · refine ⟨?_, ?_, ?_⟩
    · simp only [take, hbraces, takeHidden, ht, if_true, depth, Option.map_some, Option.getD_some]
      omega
    all_goals simp [take, hbraces, takeHidden, ht, outsideMarks, outsideGap]
  · have htrivia := not_isTrivia_of_opens ht
    by_cases hbrace : t.isSymbol "\x7b" = true
    · refine ⟨?_, ?_, ?_⟩
      all_goals
        simp [take, hbraces, htrivia, hbrace, depth, outsideMarks, outsideGap, houter, hlength,
          List.getLast?_cons]
    · refine ⟨?_, ?_, ?_⟩
      all_goals
        simp [take, hbraces, htrivia, hbrace, ht, depth, outsideMarks, outsideGap, houter, hlength,
          List.getLast?_cons]

theorem take_inner (hopens : t.opens = false) (hcloses : t.closes = false) :
    (s.take t).depth = n + 1 ∧ SameOutside s (s.take t) := by
  rcases inside_cases hdepth with ⟨gap, k, hbraces, hlength⟩ | ⟨hbraces, e, outer, houter, hlength⟩
  · have hsame : s.take t = s := by simp [take, hbraces, takeHidden, hopens, hcloses]
    rw [hsame]
    exact ⟨hdepth, rfl, rfl⟩
  · have hbrace := not_brace_of_not_opens hopens
    by_cases htrivia : t.isTrivia = true
    · refine ⟨?_, ?_, ?_⟩
      all_goals
        simp [take, hbraces, htrivia, depth, outsideMarks, outsideGap, houter, hlength,
          List.getLast?_cons]
    · refine ⟨?_, ?_, ?_⟩
      all_goals
        simp [take, hbraces, htrivia, hbrace, hopens, hcloses, put, depth, outsideMarks, outsideGap,
          houter, hlength, List.getLast?_cons]

end Inside

/-- Closing a text in brackets puts a single mark for it into the text around. -/
theorem close_eq {s : Marking} {e : Enclosure} {outer : List Enclosure}
    (houter : s.outer = e :: outer) :
    ∃ sign : Sign, sign.isGroup = true ∧
      s.close = ⟨e.gap.mark sign :: e.before, Gap.empty, outer, none⟩ := by
  unfold close
  rw [houter]
  refine ⟨_, ?_, rfl⟩
  split
  · rfl
  · rfl

section Closing

variable {s : Marking} {t : Token} {n : Nat} (hopens : t.opens = false) (hcloses : t.closes = true)

include hopens hcloses

/-- A closing token goes one level up. -/
theorem take_nested_closing (hdepth : s.depth = n + 2) :
    (s.take t).depth = n + 1 ∧ SameOutside s (s.take t) := by
  have htrivia := not_isTrivia_of_closes hcloses
  have hbrace := not_brace_of_not_opens hopens
  rcases inside_cases hdepth with ⟨gap, k, hbraces, hlength⟩ | ⟨hbraces, e, outer, houter, hlength⟩
  · cases k with
    | zero =>
        -- The braces are closed, and an enclosing text is left.
        obtain ⟨e, outer, houter⟩ : ∃ e outer, s.outer = e :: outer :=
          List.exists_cons_of_length_eq_add_one hlength
        rw [houter, List.length_cons] at hlength
        refine ⟨?_, ?_, ?_⟩
        all_goals
          simp [take, hbraces, takeHidden, hopens, hcloses, depth, outsideMarks, outsideGap, houter,
            List.getLast?_cons]
        omega
    | succ k =>
        refine ⟨?_, ?_, ?_⟩
        all_goals
          simp [take, hbraces, takeHidden, hopens, hcloses, depth, outsideMarks, outsideGap]
        omega
  · obtain ⟨e', outer', rfl⟩ : ∃ e' outer', outer = e' :: outer' :=
      List.exists_cons_of_length_eq_add_one hlength
    rcases close_eq houter with ⟨sign, -, hclose⟩
    refine ⟨?_, ?_, ?_⟩
    all_goals
      simp [take, hbraces, htrivia, hbrace, hopens, hcloses, hclose, depth, outsideMarks, outsideGap,
        houter, List.getLast?_cons]
    simpa using hlength

/-- The last closing token makes one mark of the whole text in brackets. -/
theorem take_closing (hdepth : s.depth = 1) :
    (s.take t).depth = 0 ∧ Enclosed s (s.take t) := by
  have htrivia := not_isTrivia_of_closes hcloses
  have hbrace := not_brace_of_not_opens hopens
  rcases inside_cases hdepth with ⟨gap, k, hbraces, hlength⟩ | ⟨hbraces, e, outer, houter, hlength⟩
  · obtain ⟨houter, rfl⟩ : s.outer = [] ∧ k = 0 := by
      rw [Nat.add_eq_zero_iff, List.length_eq_zero_iff] at hlength
      exact hlength
    refine ⟨?_, ⟨Sign.braces, rfl, ?_⟩, ?_⟩
    all_goals
      simp [take, hbraces, takeHidden, hopens, hcloses, depth, outsideMarks, outsideGap, houter]
  · obtain rfl : outer = [] := List.length_eq_zero_iff.1 hlength
    rcases close_eq houter with ⟨sign, hgroup, hclose⟩
    refine ⟨?_, ⟨sign, hgroup, ?_⟩, ?_⟩
    all_goals
      simp [take, hbraces, htrivia, hbrace, hopens, hcloses, hclose, depth, outsideMarks, outsideGap,
        houter]

end Closing

/-! ## All tokens -/

/-- Texts that are never closed still make one mark outside, that of the outermost. -/
theorem marks_foldl_close {s : Marking} {e : Enclosure} {outer : List Enclosure}
    (houter : s.outer = e :: outer) :
    ∃ sign : Sign, sign.isGroup = true ∧
      (s.outer.foldl (fun s _ => s.close) s).marks = s.outsideGap.mark sign :: s.outsideMarks := by
  -- Each text in brackets goes into the one around it; the outermost one is left as a mark.
  induction outer generalizing s e with
  | nil =>
      rcases close_eq houter with ⟨sign, hgroup, hclose⟩
      refine ⟨sign, hgroup, ?_⟩
      simp [houter, hclose, outsideGap, outsideMarks]
  | cons next outer ih =>
      rcases close_eq houter with ⟨sign, -, hclose⟩
      have hnext : s.close.outer = next :: outer := by simp [hclose]
      rcases ih hnext with ⟨last, hgroup, hmarks⟩
      refine ⟨last, hgroup, ?_⟩
      rw [houter, List.foldl_cons, ← hnext, hmarks]
      simp [hclose, houter, outsideGap, outsideMarks, List.getLast?_cons]

/-- With everything closed the marks are those outside. -/
theorem finish_outside {s : Marking} (hdepth : s.depth = 0) :
    s.finish = s.outsideMarks.reverse := by
  rcases outer_eq_nil_of_depth hdepth with ⟨houter, hbraces⟩
  simp [finish, hbraces, houter, outsideMarks]

/-- A text that is never closed makes one mark more. -/
theorem finish_inside {s : Marking} {n : Nat} (hdepth : s.depth = n + 1) :
    ∃ sign : Sign, sign.isGroup = true ∧
      s.finish = (s.outsideGap.mark sign :: s.outsideMarks).reverse := by
  rcases inside_cases hdepth with ⟨gap, k, hbraces, -⟩ | ⟨hbraces, e, outer, houter, -⟩
  · cases houter : s.outer with
    | nil => exact ⟨.braces, rfl, by simp [finish, hbraces, houter, outsideGap, outsideMarks]⟩
    | cons e outer =>
        -- The braces are closed first, inside of the texts in other brackets.
        let closed : Marking := { s with marks := gap.mark .braces :: s.marks, braces := none }
        have hinner : closed.outer = e :: outer := houter
        rcases marks_foldl_close hinner with ⟨sign, hgroup, hmarks⟩
        refine ⟨sign, hgroup, ?_⟩
        simp only [finish, hbraces]
        rw [hmarks]
        simp [closed, houter, outsideGap, outsideMarks, List.getLast?_cons]
  · rcases marks_foldl_close houter with ⟨sign, hgroup, hmarks⟩
    refine ⟨sign, hgroup, ?_⟩
    simp only [finish, hbraces]
    rw [hmarks]

/-- The marks that are added from here on are those of the pieces. -/
def AddsMarksOf (s : Marking) (pieces : List Piece) (marks : List Mark) : Prop :=
  ∃ added, marks = s.outsideMarks.reverse ++ added ∧ List.Forall₂ Mark.IsOf pieces added

section Adding

variable {s s' : Marking} {pieces : List Piece} {marks : List Mark}

theorem AddsMarksOf.of_same (h : AddsMarksOf s' pieces marks)
    (hmarks : s'.outsideMarks = s.outsideMarks) : AddsMarksOf s pieces marks := by
  rcases h with ⟨added, heq, hall⟩
  exact ⟨added, hmarks ▸ heq, hall⟩

theorem AddsMarksOf.cons {p : Piece} {m : Mark} (h : AddsMarksOf s' pieces marks)
    (hmarks : s'.outsideMarks = m :: s.outsideMarks) (hm : Mark.IsOf p m) :
    AddsMarksOf s (p :: pieces) marks := by
  rcases h with ⟨added, heq, hall⟩
  refine ⟨m :: added, ?_, List.Forall₂.cons hm hall⟩
  rw [heq, hmarks]
  simp

end Adding

section Steps

variable {lead : List Token} {inside : Option OpenGroup} {s s' : Marking}

/-- The gap the marks have gathered is that of the piece's lead. -/
theorem InStep.isOf {c : Chunk} {sign : Sign} (h : InStep lead inside s) (hsign : c.HasSign sign)
    (hfirst : c.first.isTrivia = false) :
    Mark.IsOf ⟨lead.reverse, c⟩ (s.outsideGap.mark sign) where
  sign := hsign
  commented := by
    rw [Piece.commented, List.any_reverse]
    exact h.commented
  lead_trivia := by
    intro t ht
    exact h.trivia t (List.mem_reverse.1 ht)
  first_token := hfirst

/-- Inside of brackets only their number changes. -/
theorem InStep.within {g : OpenGroup} (h : InStep lead inside s) (hdepth : s'.depth = g.depth + 1)
    (hsame : SameOutside s s') (hopening : g.opening.isTrivia = false) :
    InStep lead (some g) s' where
  depth := hdepth
  commented := by rw [hsame.gap, h.commented]
  trivia := h.trivia
  opening := by simpa using hopening

theorem inStep_empty (hdepth : s.depth = 0) (hgap : s.outsideGap = Gap.empty) :
    InStep [] none s where
  depth := hdepth
  commented := by rw [hgap]; rfl
  trivia := by simp
  opening := by simp

end Steps

/-- What is left of the tokens makes one mark for each piece. -/
theorem InStep.addsMarksOf {lead : List Token} {inside : Option OpenGroup} {s : Marking}
    {ts : List Token} (h : InStep lead inside s) :
    AddsMarksOf s (Pieces.ofChunks lead (chunksFrom inside ts)).list (ts.foldl take s).finish := by
  -- The cases are those of the pieces; each is matched with one step of the marks.
  fun_induction chunksFrom inside ts generalizing lead s with
  | case1 => exact ⟨[], by simpa using finish_outside h.depth, List.Forall₂.nil⟩
  | case2 g =>
      rcases finish_inside h.depth with ⟨sign, hgroup, hfinish⟩
      have hbrackets : Mark.IsOf ⟨lead.reverse, .group g.opening g.body.reverse none⟩
          (s.outsideGap.mark sign) := h.isOf hgroup (h.opening g rfl)
      exact ⟨[s.outsideGap.mark sign], by simpa using hfinish,
        List.Forall₂.cons hbrackets List.Forall₂.nil⟩
  | case3 t ts hopens ih =>
      rcases take_opening h.depth hopens with ⟨hdepth, hsame⟩
      exact (ih (h.within hdepth hsame (not_isTrivia_of_opens hopens))).of_same hsame.marks
  | case4 t ts hopens ih =>
      simp only [Bool.not_eq_true] at hopens
      by_cases htrivia : t.isTrivia = true
      · rcases take_trivia h.depth htrivia with ⟨hdepth, hmarks, hgap⟩
        have hnext : InStep (t :: lead) none (s.take t) :=
          { depth := hdepth
            commented := by simp [hgap, Gap.pass, h.commented, Bool.or_comm]
            trivia := List.forall_mem_cons.2 ⟨htrivia, h.trivia⟩
            opening := by simp }
        simpa [Pieces.ofChunks, Chunk.trivia?, htrivia] using (ih hnext).of_same hmarks
      · simp only [Bool.not_eq_true] at htrivia
        rcases take_leaf h.depth htrivia hopens with ⟨hdepth, hmarks, hgap⟩
        have hleaf : Mark.IsOf ⟨lead.reverse, .leaf t⟩ (s.outsideGap.mark (Sign.ofToken t)) :=
          h.isOf rfl htrivia
        simpa [Pieces.ofChunks, Chunk.trivia?, htrivia] using
          (ih (inStep_empty hdepth hgap)).cons hmarks hleaf
  | case5 g t ts hopens ih =>
      rcases take_nested_opening h.depth hopens with ⟨hdepth, hsame⟩
      exact (ih (h.within hdepth hsame (h.opening g rfl))).of_same hsame.marks
  | case6 g t ts hopens hcloses hzero ih =>
      simp only [Bool.not_eq_true] at hopens
      have hone : s.depth = 1 := by simpa [hzero] using h.depth
      rcases take_closing hopens hcloses hone with ⟨hdepth, ⟨sign, hgroup, hmarks⟩, hgap⟩
      have hbrackets : Mark.IsOf ⟨lead.reverse, .group g.opening g.body.reverse (some t)⟩
          (s.outsideGap.mark sign) := h.isOf hgroup (h.opening g rfl)
      exact (ih (inStep_empty hdepth hgap)).cons hmarks hbrackets
  | case7 g t ts hopens hcloses depth hsucc ih =>
      simp only [Bool.not_eq_true] at hopens
      have htwo : s.depth = depth + 2 := by simpa [hsucc] using h.depth
      rcases take_nested_closing hopens hcloses htwo with ⟨hdepth, hsame⟩
      exact (ih (h.within hdepth hsame (h.opening g rfl))).of_same hsame.marks
  | case8 g t ts hopens hcloses ih =>
      simp only [Bool.not_eq_true] at hopens hcloses
      rcases take_inner h.depth hopens hcloses with ⟨hdepth, hsame⟩
      exact (ih (h.within hdepth hsame (h.opening g rfl))).of_same hsame.marks

end Marking

/-- The marks of a passage are those of its pieces, in order. -/
theorem Passage.forall₂_isOf_ofTokens (ts : List Token) :
    List.Forall₂ Mark.IsOf (Passage.ofTokens ts).pieces (Passage.ofTokens ts).marks := by
  have hstart : Marking.InStep [] none Marking.empty := Marking.inStep_empty rfl rfl
  rcases hstart.addsMarksOf with ⟨added, hmarks, hall⟩
  have hadded : (Passage.ofTokens ts).marks = added := hmarks
  rw [hadded]
  exact hall

end Source
end GoSurvey
