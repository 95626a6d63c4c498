import GoSurvey.Source.Outline

/-!
# Doc comments

The doc block of an item is the run of comments directly above it: each ends on the row before the
next one starts, and the last on the row before the item. A comment that follows the end of an item
on its own row belongs to that item and ends the run.

* `Sibling.docBlock` — the doc block below a list of preceding elements;
* `Sibling.documented` — the items of a list, each with its doc block.
-/

namespace GoSurvey
namespace Source
namespace Sibling

variable {α : Type}

/-- Whether the nearest preceding element is an item that ends on the row. -/
def trailsItem (before : List (Sibling α)) (row : Nat) : Bool :=
  match before with
  | .item _ endRow _ :: _ => endRow == row
  | _ => false

/-- The comments attached to what starts on `row`, the nearest first; `before` holds the preceding
elements in the same order. -/
def attached : List (Sibling α) → Nat → List Comment
  | .comment c :: before, row =>
      if c.endRow + 1 = row ∧ ¬ trailsItem before c.startRow then c :: attached before c.startRow
      else []
  | _, _ => []

/-- The texts of the comments attached to what starts on `row`, in source order. -/
def docBlock (before : List (Sibling α)) (row : Nat) : List String :=
  (attached before row).reverse.map (·.text)

/-- The items of a list with their doc blocks; `before` holds the elements already passed, the
nearest first. -/
def documentedFrom (before : List (Sibling α)) : List (Sibling α) → List (α × List String)
  | [] => []
  | s :: rest =>
      match s with
      | .comment _ => documentedFrom (s :: before) rest
      | .item startRow _ value => (value, docBlock before startRow) :: documentedFrom (s :: before) rest

def documented (siblings : List (Sibling α)) : List (α × List String) :=
  documentedFrom [] siblings

end Sibling
end Source
end GoSurvey
