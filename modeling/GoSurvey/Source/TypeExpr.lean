import GoSurvey.Source.Piece
import GoSurvey.Source.Marking

/-!
# Pieces and their marks

Readers look at marks, and a declaration is made of pieces. Both come from the same tokens, one mark
for each piece.

* `Passage` — pieces with their marks;
* `TypeExpr.ofReading` — the type that a reading finds in pieces.
-/

namespace GoSurvey
namespace Source

structure Passage where
  pieces : List Piece
  marks : List Mark

namespace Passage

def ofTokens (ts : List Token) : Passage :=
  ⟨(Pieces.ofTokens ts).list, Marks.ofTokens ts⟩

def drop (n : Nat) (p : Passage) : Passage :=
  ⟨p.pieces.drop n, p.marks.drop n⟩

def mark? (p : Passage) : Option Mark :=
  p.marks.head?

def word? (p : Passage) : Option String :=
  p.mark?.bind Mark.word?

/-- The tokens between the brackets that open with `s` and start the passage. -/
def body? (p : Passage) (s : String) : Option (List Token) :=
  p.pieces.head?.bind fun piece => piece.chunk.body? s

def start (p : Passage) : Place :=
  (p.pieces.head?.map Piece.start).getD Place.origin

end Passage

def TypeExpr.ofReading (p : Passage) (r : TypeReading) : TypeExpr :=
  ⟨p.start, String.ofList (Pieces.render (p.pieces.take r.size)), r.form⟩

end Source
end GoSurvey
