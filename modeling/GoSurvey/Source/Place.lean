/-!
# Places

A place in a source text: how many bytes, how many rows and how many bytes of its row stand
before it.

* `Place.after p s` — the place reached from `p` by reading `s`.
-/

namespace GoSurvey
namespace Source

/-- A place in a source text. Rows and columns count from zero, and a column counts bytes. -/
structure Place where
  offset : Nat
  row : Nat
  column : Nat
deriving DecidableEq

namespace Place

def origin : Place := ⟨0, 0, 0⟩

def next (p : Place) (c : Char) : Place :=
  if c = '\n' then ⟨p.offset + 1, p.row + 1, 0⟩
  else ⟨p.offset + c.utf8Size, p.row, p.column + c.utf8Size⟩

def after (p : Place) (s : List Char) : Place :=
  s.foldl next p

/-- A way through two texts is one through the first and then one through the second. -/
theorem after_append (p : Place) (s t : List Char) : p.after (s ++ t) = (p.after s).after t := by
  simp [after, List.foldl_append]

end Place
end Source
end GoSurvey
