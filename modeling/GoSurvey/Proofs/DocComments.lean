import Mathlib.Data.List.Flatten
import GoSurvey.Extract
import GoSurvey.Proofs.SourceOrder

/-!
# Comments that trail an item

A comment that follows the end of an item on its own row belongs to that item. A doc block looks
only at the element directly before each of its comments, so this rule holds unless another comment
stands between the item and the comment.

* `Sibling.attached_eq_append` — what is known of a comment in a doc block;
* `Sibling.IsDocComment` — a comment of a doc block, with what stands before it;
* `Sibling.docComment_trails_behind_comment` — the only way in which a comment of a doc block can
  follow an item on its row, for any list in source order;
* `Source.parse_docComment_trails_behind_comment` — the same for all lists of a parsed file;
* `Source.docComment_trails_var` — it does happen.
-/

namespace GoSurvey
namespace Source
namespace Sibling

variable {α : Type}

/-! ## Doc blocks -/

/-- The nearest comment is attached if it ends on the row before and trails no item, and so on from
its own row. -/
theorem attached_eq_cons_iff {before : List (Sibling α)} {row : Nat} {c : Comment}
    {above : List Comment} :
    attached before row = c :: above ↔
      ∃ rest, before = comment c :: rest ∧ c.endRow + 1 = row ∧ trailsItem rest c.startRow = false ∧
        attached rest c.startRow = above := by
  constructor
  · intro h
    cases before with
    | nil => simp [attached] at h
    | cons s rest =>
        -- An item stops the walk; a comment is attached or stops it.
        cases s with
        | item startRow endRow value => simp [attached] at h
        | comment d =>
            simp only [attached] at h
            split at h
            next hjoined =>
              obtain ⟨rfl, rfl⟩ := List.cons.inj h
              exact ⟨rest, rfl, hjoined.1, by simpa using hjoined.2, rfl⟩
            next => simp at h
  · rintro ⟨rest, rfl, hrow, htrails, rfl⟩
    simp [attached, hrow, htrails]

/-- The comments of a doc block are the nearest elements before the item. The element before a
comment is no item that ends on the comment's row, and the comments above it are a doc block in
turn. -/
theorem attached_eq_append {before : List (Sibling α)} {row : Nat} {below above : List Comment}
    {c : Comment} (h : attached before row = below ++ c :: above) :
    ∃ rest, before = below.map comment ++ comment c :: rest ∧
      trailsItem rest c.startRow = false ∧ attached rest c.startRow = above := by
  induction below generalizing before row with
  | nil =>
      rcases attached_eq_cons_iff.1 h with ⟨rest, rfl, -, htrails, habove⟩
      exact ⟨rest, rfl, htrails, habove⟩
  | cons d below ih =>
      rcases attached_eq_cons_iff.1 h with ⟨inner, rfl, -, -, hbelow⟩
      rcases ih hbelow with ⟨rest, rfl, htrails, habove⟩
      exact ⟨rest, rfl, htrails, habove⟩

/-- A comment belongs to the doc block of an item of the list: `above` are the comments of the block
that stand above it, and `before` all elements of the list that stand before it, the nearest
first. -/
def IsDocComment (l : List (Sibling α)) (c : Comment) (above : List Comment)
    (before : List (Sibling α)) : Prop :=
  ∃ earlier later startRow endRow value below,
    l = earlier ++ item startRow endRow value :: later ∧
      attached earlier.reverse startRow = below ++ c :: above ∧
      before = earlier.reverse.drop (below.length + 1)

/-- No comment of a doc block starts on a row on which an item before it ends. -/
def NoDocCommentTrails (l : List (Sibling α)) : Prop :=
  ∀ c above before, IsDocComment l c above before →
    ∀ startRow endRow value, item startRow endRow value ∈ before → endRow ≠ c.startRow

/-- If a comment of a doc block starts on a row on which an item before it ends, then it is the
first of its block, and directly before it stands another comment on that same row. -/
def DocCommentTrailsBehindComment (l : List (Sibling α)) : Prop :=
  ∀ c above before, IsDocComment l c above before →
    ∀ startRow endRow value, item startRow endRow value ∈ before → endRow = c.startRow →
      above = [] ∧
        ∃ d rest, before = comment d :: rest ∧ d.startRow = c.startRow ∧ d.endRow = c.startRow

/-- Where elements are in order, a doc comment can trail an item only behind another comment on its
row. -/
theorem docComment_trails_behind_comment {l : List (Sibling α)} (horder : InOrder l) :
    DocCommentTrailsBehindComment l := by
  intro c above before hdoc startRow endRow value hitem hrow
  rcases hdoc with ⟨earlier, later, _, _, _, below, rfl, hattached, rfl⟩
  rcases attached_eq_append hattached with ⟨rest, hearlier, htrails, habove⟩
  have hrest : earlier.reverse.drop (below.length + 1) = rest := by
    simp [hearlier, List.drop_append]
  rw [hrest] at hitem ⊢
  -- The elements before the item, the nearest first, are in order from the last to the first.
  have hpairs : (comment c :: rest).Pairwise fun b a => a.endRow ≤ b.startRow := by
    have hearly := (List.pairwise_append.1 horder.endRow_le_startRow).1
    have hreverse := List.pairwise_reverse.2 hearly
    rw [hearlier] at hreverse
    exact (List.pairwise_append.1 hreverse).2.1
  have hwithin : ∀ s ∈ rest, s.startRow ≤ s.endRow := by
    intro s hs
    refine horder.startRow_le_endRow s (List.mem_append_left _ (List.mem_reverse.1 ?_))
    rw [hearlier]
    exact List.mem_append_right _ (List.mem_cons_of_mem _ hs)
  cases rest with
  | nil => simp at hitem
  | cons nearest rest =>
      have hnear : nearest.endRow ≤ c.startRow := (List.pairwise_cons.1 hpairs).1 nearest (by simp)
      have hspan := hwithin nearest (by simp)
      have hfar : ∀ s ∈ rest, s.endRow ≤ nearest.startRow :=
        (List.pairwise_cons.1 (List.pairwise_cons.1 hpairs).2).1
      cases nearest with
      | item startRow' endRow' value' =>
          -- The item would end on the row of the comment, which ends the block before it.
          have hends : endRow' = c.startRow := by
            rcases List.mem_cons.1 hitem with hsame | hlater
            · cases hsame
              exact hrow
            · have hle := hfar _ hlater
              simp only [Sibling.startRow, Sibling.endRow] at hle hspan hnear
              omega
          simp [trailsItem, hends] at htrails
      | comment d =>
          -- Between the item and the comment stands another comment, and the order leaves one row
          -- for both.
          have hmem : item startRow endRow value ∈ rest := by simpa using hitem
          have hle := hfar _ hmem
          simp only [Sibling.startRow, Sibling.endRow] at hle hspan hnear
          have hstart : d.startRow = c.startRow := by omega
          have hend : d.endRow = c.startRow := by omega
          refine ⟨?_, d, rest, rfl, hstart, hend⟩
          rw [← habove]
          simp [attached, hend]

/-- Two comments between an item and the next one: if the second does not start on the row after the
first, and ends on the row before the next item, it is the doc comment of that item, wherever the
item before them ends. -/
theorem isDocComment_behind_comment (earlier later : List (Sibling α)) {first next : Sibling α}
    {d c : Comment} {startRow endRow : Nat} {value : α} (hnext : next = item startRow endRow value)
    (hd : d.endRow + 1 ≠ c.startRow) (hc : c.endRow + 1 = startRow) :
    IsDocComment (earlier ++ first :: comment d :: comment c :: next :: later) c []
      (comment d :: first :: earlier.reverse) := by
  refine ⟨earlier ++ [first, comment d, comment c], later, startRow, endRow, value, [], ?_, ?_, ?_⟩
  · simp [hnext]
  · simp [attached, trailsItem, hc, hd]
  · simp

end Sibling

/-! ## Files -/

/-- In every parsed file, for top-level items, entries of type declarations and elements of
interfaces alike: a comment of a doc block starts on a row on which an item before it ends only
directly behind another comment on that row, and only as the first of its block. -/
theorem parse_docComment_trails_behind_comment (source : String) :
    Sibling.DocCommentTrailsBehindComment (File.parse source).items ∧
      ∀ startRow endRow entries,
        .item startRow endRow (.types entries) ∈ (File.parse source).items →
        Sibling.DocCommentTrailsBehindComment entries ∧
          ∀ startRow' endRow' name start elements,
            .item startRow' endRow' (.spec name (.interface start elements)) ∈ entries →
            Sibling.DocCommentTrailsBehindComment elements := by
  rcases File.inOrder_parse source with ⟨hitems, hdecls⟩
  refine ⟨Sibling.docComment_trails_behind_comment hitems, ?_⟩
  intro startRow endRow entries hentries
  have hdecl := hdecls startRow endRow _ hentries
  refine ⟨Sibling.docComment_trails_behind_comment hdecl.1, ?_⟩
  intro startRow' endRow' name start elements helements
  exact Sibling.docComment_trails_behind_comment (hdecl.2 startRow' endRow' _ helements)

/-- A variable, two comments on its row, and a struct on the next one. -/
def trailedVar : String :=
  "package p\n\nvar x = 1 /* a */ // b\ntype A struct{}\n"

theorem items_parse_trailedVar :
    (File.parse trailedVar).items =
      [.item 0 0 (.package "p"), .item 2 2 .other, .comment ⟨"/* a */", 2, 2⟩,
        .comment ⟨"// b", 2, 2⟩,
        .item 3 3 (.types [.item 3 3 (.spec "A" (.struct ⟨41, 3, 7⟩ []))])] := by
  decide +kernel

/-- The second comment is in the doc block of the struct. -/
theorem isDocComment_trailedVar :
    Sibling.IsDocComment (File.parse trailedVar).items ⟨"// b", 2, 2⟩ []
      [.comment ⟨"/* a */", 2, 2⟩, .item 2 2 .other, .item 0 0 (.package "p")] := by
  rw [items_parse_trailedVar]
  refine Sibling.isDocComment_behind_comment [Sibling.item 0 0 (Decl.package "p")] [] rfl ?_ rfl
  decide

/-- Between this doc comment and the item on its row stands the first comment; inside the type
declaration there is none. -/
theorem parse_docComment_trails_behind_comment_var :
    Sibling.IsDocComment (File.parse trailedVar).items ⟨"// b", 2, 2⟩ []
        [.comment ⟨"/* a */", 2, 2⟩, .item 2 2 .other, .item 0 0 (.package "p")] ∧
      (∃ d rest, [.comment ⟨"/* a */", 2, 2⟩, .item 2 2 .other, .item 0 0 (.package "p")] =
        (Sibling.comment d :: rest : List (Sibling Decl)) ∧ d.startRow = 2 ∧ d.endRow = 2) ∧
      .item 3 3 (.types [.item 3 3 (.spec "A" (.struct ⟨41, 3, 7⟩ []))]) ∈
        (File.parse trailedVar).items ∧
      Sibling.DocCommentTrailsBehindComment
        [.item 3 3 (TypeDecl.spec "A" (.struct ⟨41, 3, 7⟩ []))] := by
  have htypes : Sibling.item 3 3 (.types [.item 3 3 (.spec "A" (.struct ⟨41, 3, 7⟩ []))]) ∈
      (File.parse trailedVar).items := by
    simp [items_parse_trailedVar]
  rcases parse_docComment_trails_behind_comment trailedVar with ⟨hitems, hentries⟩
  refine ⟨isDocComment_trailedVar, ?_, htypes, (hentries 3 3 _ htypes).1⟩
  exact (hitems _ _ _ isDocComment_trailedVar 2 2 .other (by simp) rfl).2

/-- The second comment on the row of the variable is taken for the doc comment of the struct below,
which is reported for it. -/
theorem docComment_trails_var :
    ¬ Sibling.NoDocCommentTrails (File.parse trailedVar).items ∧
      (Extract.ofSource ⟨"p", "p", "f.go"⟩ trailedVar).structs.map (fun s => (s.name, s.comments)) =
        [("A", ["// b"])] := by
  refine ⟨?_, by decide +kernel⟩
  intro hnone
  exact hnone _ _ _ isDocComment_trailedVar 2 2 .other (by simp) rfl

end Source
end GoSurvey
