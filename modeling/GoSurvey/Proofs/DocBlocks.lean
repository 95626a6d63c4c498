import Mathlib.Data.List.Induction
import GoSurvey.Proofs.DocComments

/-!
# The extent of doc blocks

A doc block is found by going up from an item, comment by comment, until one of three conditions
fails. Here it is described without that walk, as the longest run of comments before the item that
is attached to it.

* `Sibling.IsAttached` — what it takes for comments to be attached to an element;
* `Sibling.isAttached_concat_iff` — attached comments, from the last one upwards;
* `Sibling.isAttached_docComments`, `Sibling.IsAttached.length_le` — the walk up finds attached
  comments, and as many of them as there are;
* `Sibling.DocBlocksAreLongest` — the same for each element of a list, with the consequence that no
  comment belongs to two doc blocks;
* `Source.parse_docBlocks_are_longest` — all lists of a parsed file are such.
-/

namespace GoSurvey
namespace Source
namespace Sibling

variable {α : Type}

/-! ## Attached comments -/

/-- The row on which the first of the comments starts, or `row` if there is none. -/
def nextRow (row : Nat) : List Comment → Nat
  | [] => row
  | c :: _ => c.startRow

/-- Whether a block of comments is attached to what starts on `row` and follows the elements
`earlier`: they are the last of these elements, each ends on the row above the one on which the next
starts, and none of them follows an item on the row of the item's end. -/
structure IsAttached (earlier : List (Sibling α)) (row : Nat) (block : List Comment) : Prop where
  atEnd : block.map comment <:+ earlier
  rows : ∀ c below, c :: below <:+ block → c.endRow + 1 = nextRow row below
  untrailed : ∀ before c below, earlier = before ++ comment c :: below.map comment →
    c :: below <:+ block → ∀ startRow endRow value,
      before.getLast? = some (item startRow endRow value) → endRow ≠ c.startRow

/-- A comment does not trail an item if the nearest element before it is none, or ends on another
row. -/
theorem trailsItem_eq_false_iff {before : List (Sibling α)} {row : Nat} :
    trailsItem before row = false ↔
      ∀ startRow endRow value, before.head? = some (item startRow endRow value) →
        endRow ≠ row := by
  cases before with
  | nil => simp [trailsItem]
  | cons s before =>
      cases s with
      | comment c => simp [trailsItem]
      | item startRow endRow value => simp [trailsItem]

theorem isAttached_nil (earlier : List (Sibling α)) (row : Nat) : IsAttached earlier row [] where
  atEnd := List.nil_suffix
  rows := by simp
  untrailed := by simp

/-- The row below a block without its last comment is that of the last comment. -/
theorem nextRow_concat (row : Nat) (below : List Comment) (last : Comment) :
    nextRow row (below ++ [last]) = nextRow last.startRow below := by
  cases below <;> rfl

/-- The last of some attached comments stands right above the element, and the others are attached
to it in turn. -/
theorem isAttached_concat_iff {earlier : List (Sibling α)} {row : Nat} {above : List Comment}
    {last : Comment} :
    IsAttached earlier row (above ++ [last]) ↔
      ∃ front, earlier = front ++ [comment last] ∧ last.endRow + 1 = row ∧
        trailsItem front.reverse last.startRow = false ∧ IsAttached front last.startRow above := by
  have hself : [last] <:+ above ++ [last] := List.suffix_append above [last]
  constructor
  · intro h
    rcases h.atEnd with ⟨rest, hrest⟩
    have hearlier : earlier = rest ++ above.map comment ++ [comment last] := by
      simpa using hrest.symm
    refine ⟨rest ++ above.map comment, hearlier, h.rows last [] hself, ?_, ?_⟩
    · rw [trailsItem_eq_false_iff, List.head?_reverse]
      exact h.untrailed _ last [] hearlier hself
    · -- What holds of a comment of the whole block holds of it without the last one.
      refine ⟨List.suffix_append rest _, ?_, ?_⟩
      · intro c below hbelow
        have hwhole : c :: (below ++ [last]) <:+ above ++ [last] :=
          List.suffix_append_self_iff.2 hbelow
        rw [← nextRow_concat row below last]
        exact h.rows c (below ++ [last]) hwhole
      · intro before c below hfront hbelow
        have hwhole : c :: (below ++ [last]) <:+ above ++ [last] :=
          List.suffix_append_self_iff.2 hbelow
        refine h.untrailed before c (below ++ [last]) ?_ hwhole
        simp [hearlier, hfront]
  · rintro ⟨front, rfl, hrow, htrails, hfront⟩
    -- A comment of the block is the last one, or one of those above it.
    have hcases : ∀ c below, c :: below <:+ above ++ [last] →
        (c = last ∧ below = []) ∨ ∃ inner, below = inner ++ [last] ∧ c :: inner <:+ above := by
      intro c below hbelow
      rcases List.suffix_concat_iff.1 hbelow with hnil | ⟨inner, hinner, hsuffix⟩
      · simp at hnil
      · cases inner with
        | nil => exact Or.inl (by simpa using hinner)
        | cons d inner =>
            obtain ⟨rfl, rfl⟩ := List.cons.inj hinner
            exact Or.inr ⟨inner, rfl, hsuffix⟩
    refine ⟨?_, ?_, ?_⟩
    · rw [List.map_append]
      exact List.suffix_append_self_iff.2 hfront.atEnd
    · intro c below hbelow
      rcases hcases c below hbelow with ⟨rfl, rfl⟩ | ⟨inner, rfl, hinner⟩
      · exact hrow
      · rw [nextRow_concat]
        exact hfront.rows c inner hinner
    · intro before c below hearlier hbelow
      rcases hcases c below hbelow with ⟨rfl, rfl⟩ | ⟨inner, rfl, hinner⟩
      · obtain rfl : front = before := by simpa using hearlier
        rwa [trailsItem_eq_false_iff, List.head?_reverse] at htrails
      · refine hfront.untrailed before c inner ?_ hinner
        rw [List.map_append, ← List.cons_append, ← List.append_assoc] at hearlier
        exact List.append_cancel_right hearlier

/-! ## The walk up -/

def docComments (earlier : List (Sibling α)) (row : Nat) : List Comment :=
  (attached earlier.reverse row).reverse

/-- A doc block holds the texts of the comments attached. -/
theorem docBlock_eq_map (earlier : List (Sibling α)) (row : Nat) :
    docBlock earlier.reverse row = (docComments earlier row).map (·.text) :=
  rfl

/-- Nothing is attached behind an item. -/
theorem docComments_item (front : List (Sibling α)) (startRow endRow : Nat) (value : α)
    (row : Nat) : docComments (front ++ [item startRow endRow value]) row = [] := by
  simp [docComments, attached]

/-- A comment is attached if it ends on the row before and does not trail an item; then the comments
above it are looked at from its own row. -/
theorem docComments_comment (front : List (Sibling α)) (c : Comment) (row : Nat) :
    docComments (front ++ [comment c]) row =
      if c.endRow + 1 = row ∧ trailsItem front.reverse c.startRow = false then
        docComments front c.startRow ++ [c]
      else [] := by
  simp only [docComments, List.reverse_append, List.reverse_cons, List.reverse_nil,
    List.nil_append, List.singleton_append, attached, Bool.not_eq_true]
  split <;> simp

/-- The walk up finds comments that are attached to the element. -/
theorem isAttached_docComments (earlier : List (Sibling α)) (row : Nat) :
    IsAttached earlier row (docComments earlier row) := by
  induction earlier using List.reverseRecOn generalizing row with
  | nil => exact isAttached_nil [] row
  | append_singleton front s ih =>
      cases s with
      | item startRow endRow value =>
          rw [docComments_item]
          exact isAttached_nil _ row
      | comment c =>
          rw [docComments_comment]
          split
          -- The comment joins the block, and above it the walk goes on from its row.
          next hjoined =>
            exact isAttached_concat_iff.2 ⟨front, rfl, hjoined.1, hjoined.2, ih c.startRow⟩
          next => exact isAttached_nil _ row

/-- It finds as many as there are: no longer block of comments is attached to the element. -/
theorem IsAttached.length_le {earlier : List (Sibling α)} {row : Nat} {block : List Comment}
    (h : IsAttached earlier row block) : block.length ≤ (docComments earlier row).length := by
  -- By induction on what stands before the element; the last comment of the block tells what the
  -- last of these is.
  induction earlier using List.reverseRecOn generalizing row block with
  | nil =>
      have hnone : block = [] := by simpa using h.atEnd
      simp [hnone]
  | append_singleton front s ih =>
      rcases List.eq_nil_or_concat block with rfl | ⟨above, last, rfl⟩
      · exact Nat.zero_le _
      · rw [List.concat_eq_append] at h ⊢
        rcases isAttached_concat_iff.1 h with ⟨front', hfront, hrow, htrails, habove⟩
        obtain ⟨rfl, rfl⟩ : front = front' ∧ s = comment last := by
          simpa using hfront
        -- The last comment of the block is one that the walk takes as well.
        rw [docComments_comment, if_pos ⟨hrow, htrails⟩]
        simpa using ih habove

/-! ## Lists -/

/-- Items of a second list find their doc blocks behind all elements of the first. -/
theorem documentedFrom_append (before first second : List (Sibling α)) :
    documentedFrom before (first ++ second) =
      documentedFrom before first ++ documentedFrom (first.reverse ++ before) second := by
  induction first generalizing before with
  | nil => rfl
  | cons s first ih =>
      cases s with
      | comment c => simp [documentedFrom, ih]
      | item startRow endRow value => simp [documentedFrom, ih]

/-- What is said of an item of a list: its value with its doc block, after those of the items before
it. -/
theorem documented_append_item (earlier later : List (Sibling α)) (startRow endRow : Nat) (value : α) :
    ∃ rest, documented (earlier ++ item startRow endRow value :: later) =
      documented earlier ++ (value, docBlock earlier.reverse startRow) :: rest := by
  simp [documented, documentedFrom_append, documentedFrom]

/-- Whether the element at position `k` of a list is a comment of the doc block of the element at
position `n`. -/
def BelongsToDoc (l : List (Sibling α)) (k n : Nat) : Prop :=
  ∃ s, l[n]? = some s ∧ k < n ∧ n ≤ k + (docBlock (l.take n).reverse s.startRow).length

/-- Between the start of a doc block and its item there are comments only. -/
theorem BelongsToDoc.isComment {l : List (Sibling α)} {k n m : Nat} (h : BelongsToDoc l k n)
    (hkm : k ≤ m) (hmn : m < n) : ∃ c, l[m]? = some (comment c) := by
  rcases h with ⟨s, hs, -, hlength⟩
  have hn : n < l.length := (List.getElem?_eq_some_iff.1 hs).1
  rcases (isAttached_docComments (l.take n) s.startRow).atEnd with ⟨rest, hrest⟩
  rw [docBlock_eq_map, List.length_map] at hlength
  -- The position lies among the comments at the end of what stands before the element.
  have hcount := congrArg List.length hrest
  simp only [List.length_append, List.length_map, List.length_take] at hcount
  have hinside : m - rest.length < (docComments (l.take n) s.startRow).length := by omega
  refine ⟨(docComments (l.take n) s.startRow)[m - rest.length], ?_⟩
  -- The element is found among what stands before the item, and there behind the rest.
  calc l[m]? = (l.take n)[m]? := (List.getElem?_take_of_lt hmn).symm
    _ = (rest ++ (docComments (l.take n) s.startRow).map comment)[m]? := by rw [hrest]
    _ = ((docComments (l.take n) s.startRow).map comment)[m - rest.length]? :=
        List.getElem?_append_right (by omega)
    _ = some (comment (docComments (l.take n) s.startRow)[m - rest.length]) := by
        rw [List.getElem?_map, List.getElem?_eq_getElem hinside, Option.map_some]

/-- The doc block of each element of a list is the longest block of comments attached to it. It is
what is reported with an item, and no comment belongs to the doc blocks of two items. -/
structure DocBlocksAreLongest (l : List (Sibling α)) : Prop where
  longest : ∀ earlier s later, l = earlier ++ s :: later →
    ∃ block, IsAttached earlier s.startRow block ∧
      (∀ other, IsAttached earlier s.startRow other → other.length ≤ block.length) ∧
      docBlock earlier.reverse s.startRow = block.map (·.text)
  reported : ∀ earlier startRow endRow value later,
    l = earlier ++ item startRow endRow value :: later →
      ∃ rest, documented l = documented earlier ++ (value, docBlock earlier.reverse startRow) :: rest
  separate : ∀ k m n, BelongsToDoc l k m → BelongsToDoc l k n →
    (∀ c, l[m]? ≠ some (comment c)) → (∀ c, l[n]? ≠ some (comment c)) → m = n

/-- In any list the doc blocks are the longest attached ones, they are what is reported, and no
comment belongs to two. -/
theorem docBlocksAreLongest (l : List (Sibling α)) : DocBlocksAreLongest l where
  longest := by
    rintro earlier s later rfl
    exact ⟨docComments earlier s.startRow, isAttached_docComments earlier s.startRow,
      fun _ hother => hother.length_le, docBlock_eq_map earlier s.startRow⟩
  reported := by
    rintro earlier startRow endRow value later rfl
    exact documented_append_item earlier later startRow endRow value
  separate := by
    intro k m n hm hn hitem hitem'
    rcases Nat.lt_trichotomy m n with hlt | heq | hlt
    · -- The first of the two items would be a comment of the doc block of the second.
      rcases hm with ⟨-, -, hkm, -⟩
      rcases hn.isComment (Nat.le_of_lt hkm) hlt with ⟨c, hc⟩
      exact absurd hc (hitem c)
    · exact heq
    · rcases hn with ⟨-, -, hkn, -⟩
      rcases hm.isComment (Nat.le_of_lt hkn) hlt with ⟨c, hc⟩
      exact absurd hc (hitem' c)

end Sibling

/-! ## Files -/

/-- In every parsed file, for top-level items, entries of type declarations and elements of
interfaces alike, a doc block is the longest block of comments attached to its element. -/
theorem parse_docBlocks_are_longest (source : String) :
    Sibling.DocBlocksAreLongest (File.parse source).items ∧
      ∀ startRow endRow entries,
        .item startRow endRow (.types entries) ∈ (File.parse source).items →
        Sibling.DocBlocksAreLongest entries ∧
          ∀ startRow' endRow' name start elements,
            .item startRow' endRow' (.spec name (.interface start elements)) ∈ entries →
            Sibling.DocBlocksAreLongest elements := by
  refine ⟨Sibling.docBlocksAreLongest _, ?_⟩
  intro startRow endRow entries _
  refine ⟨Sibling.docBlocksAreLongest entries, ?_⟩
  intro startRow' endRow' name start elements _
  exact Sibling.docBlocksAreLongest elements

/-- A variable with a comment behind it, a block comment of two rows and a line comment above an
interface with a documented method. -/
def steppedComments : String :=
  "package p\n\nvar x = 1 // one\n/* I is\n   documented. */\n// Twice.\ntype I interface \x7b\n\t// M.\n\tM()\n\x7d\n"

def steppedBefore : List (Sibling Decl) :=
  [.item 0 0 (.package "p"), .item 2 2 .other, .comment ⟨"// one", 2, 2⟩,
    .comment ⟨"/* I is\n   documented. */", 3, 4⟩, .comment ⟨"// Twice.", 5, 5⟩]

def steppedElements : List (Sibling Element) :=
  [.comment ⟨"// M.", 7, 7⟩, .item 8 8 (.method "M" ⟨[], .absent⟩)]

theorem items_parse_steppedComments :
    (File.parse steppedComments).items =
      steppedBefore ++
        [.item 6 9 (.types [.item 6 9 (.spec "I" (.interface ⟨71, 6, 7⟩ steppedElements))])] := by
  decide +kernel

/-- A block that spans rows and a line below it are one doc block, and the comments in the interface
have their own. -/
theorem parse_docBlocks_are_longest_steppedComments :
    (File.parse steppedComments).items =
        steppedBefore ++
          [.item 6 9 (.types [.item 6 9 (.spec "I" (.interface ⟨71, 6, 7⟩ steppedElements))])] ∧
      (∃ block, Sibling.IsAttached steppedBefore 6 block ∧
        (∀ other, Sibling.IsAttached steppedBefore 6 other → other.length ≤ block.length) ∧
        block.map (·.text) = ["/* I is\n   documented. */", "// Twice."]) ∧
      Sibling.DocBlocksAreLongest steppedElements := by
  rcases parse_docBlocks_are_longest steppedComments with ⟨hitems, hentries⟩
  refine ⟨items_parse_steppedComments, ?_, ?_⟩
  · rcases hitems.longest _ _ [] items_parse_steppedComments with
      ⟨block, hattached, hlongest, hblock⟩
    refine ⟨block, hattached, hlongest, hblock.symm.trans ?_⟩
    decide
  · rw [items_parse_steppedComments] at hentries
    have htypes := hentries 6 9 _ (List.mem_append_right _ (List.mem_singleton_self _))
    exact htypes.2 6 9 "I" ⟨71, 6, 7⟩ steppedElements (List.mem_singleton_self _)

end Source
end GoSurvey
