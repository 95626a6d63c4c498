import GoSurvey.Source.Signature
import GoSurvey.Source.FieldReading

/-!
# Reading declarations

* `Field.readAll` — the fields of a struct;
* `Sibling.readAll` — a list of entries with the comments between them;
* `Element.read`, `TypeDecl.read`, `Decl.read` — the entries of interfaces, type declarations and
  files;
* `File.parse` — a whole source text.
-/

namespace GoSurvey
namespace Source

/-! ## Lists with comments -/

namespace Sibling

variable {α : Type}

def comments (trivia : List Token) : List (Sibling α) :=
  (trivia.filter (·.kind == .comment)).map fun t =>
    .comment ⟨String.ofList t.text, t.start.row, t.stop.row⟩

def ofPieces (ps : List Piece) (value : α) : List (Sibling α) :=
  match ps.head?, ps.getLast? with
  | some first, some last => [.item first.start.row last.endRow value]
  | _, _ => []

/-- Whether a piece is a semicolon on the line of the entry before it, which it only ends. -/
def isTerminator (p : Piece) : Bool :=
  !p.startsLine && p.chunk.isSymbol ";"

/-- The entries of a passage with the comments before each; `size` tells how many pieces an entry
takes, and `read` what it is. -/
def readPassage (size : List Mark → Nat) (read : Passage → α) :
    List Piece → List Mark → List (Sibling α)
  | [], _ => []
  | p :: ps, ms =>
      -- An entry takes one piece in any case, so that fewer are left.
      let n := max 1 (size ms)
      let entry := (p :: ps).take n
      comments p.lead ++ ofPieces entry (read ⟨entry, ms.take n⟩) ++
        match _h : ps.drop (n - 1) with
        | [] => []
        | q :: qs =>
            if isTerminator q then comments q.lead ++ readPassage size read qs (ms.drop (n + 1))
            else readPassage size read (q :: qs) (ms.drop n)
termination_by ps => ps.length
decreasing_by
  all_goals
    have := congrArg List.length _h
    simp only [List.length_drop, List.length_cons] at this ⊢
    omega

/-- The entries between two brackets with the comments among them; the size of an entry is found with
the number of all pieces as fuel. -/
def readAll (size : Nat → List Mark → Nat) (read : Passage → α) (tokens : List Token) :
    List (Sibling α) :=
  let pieces := Pieces.ofTokens tokens
  let marks := Marks.ofTokens tokens
  readPassage (size marks.length) read pieces.list marks ++ comments pieces.trailing

end Sibling

/-! ## Struct fields -/

namespace Field

def tag? (p : Passage) : Option TagLiteral :=
  p.pieces.head?.map fun piece =>
    ⟨piece.start, String.ofList piece.chunk.render⟩

def ofReading (p : Passage) (r : FieldReading) : Field :=
  let type := TypeExpr.ofReading (p.drop r.typeStart) r.type
  let tag := r.tag.bind fun n => tag? (p.drop n)
  match r.names with
  | [] => .embedded r.star type tag
  | first :: more => .named first more type tag

/-- The fields that readings find in a passage of which the first `passed` pieces have been left out.
Each reading starts after the one before it. -/
def ofReadings (passed : Nat) (p : Passage) : List (Nat × FieldReading) → List Field
  | [] => []
  | (start, r) :: rs =>
      let here := p.drop (start - passed)
      ofReading here r :: ofReadings start here rs

def readAll (body : List Token) : List Field :=
  let p := Passage.ofTokens body
  ofReadings 0 p (FieldReading.readList p.marks)

end Field

/-! ## Interface elements -/

def Element.read (p : Passage) : Element :=
  match p.word? with
  | some name =>
      if Extent.isElementMethod p.marks then .method name (Signature.read (p.drop 1))
      else .constraint
  | none => .constraint

/-! ## Type declarations -/

def TypeBody.read (p : Passage) : TypeBody :=
  let inside := p.drop 1
  match inside.body? "\x7b" with
  | none => .other
  | some body =>
      if p.word? = some "struct" then .struct p.start (Field.readAll body)
      else if p.word? = some "interface" then
        .interface p.start
          (Sibling.comments ((inside.pieces.head?.map Piece.lead).getD [])
            ++ Sibling.readAll Extent.element Element.read body)
      else .other

namespace TypeDecl

/-- Whether brackets after a declared name hold type parameters rather than the length of an array.
The heavier reading counts; at a tie it is the one that was ahead before the last change. -/
def isTypeParams (s : SquareSenses) : Bool :=
  match s.typeParams, s.value with
  | none, _ => false
  | some _, none => true
  | some p, some v => v.total < p.total || (v.total == p.total && p.last ≤ 0)

/-- How many pieces of type parameters stand after a declared name: one or none. A synonym has no
array type of which the brackets could be a part. -/
def paramsExtent (p : Passage) : Nat :=
  match p.marks with
  | [] => 0
  | m :: ms =>
      match m.sign with
      | .squares s => if Extent.startsWith '=' ms || isTypeParams s then 1 else 0
      | _ => 0

def read (p : Passage) : TypeDecl :=
  match p.word? with
  | none => .spec "" .other
  | some name =>
      let rest := p.drop 1
      let rest := rest.drop (paramsExtent rest)
      if Extent.startsWith '=' rest.marks then .synonym name
      else .spec name (TypeBody.read rest)

end TypeDecl

/-! ## Top-level items -/

namespace Decl

/-- A type declaration after its keyword: entries in parentheses, or a single one. -/
def readTypes (p : Passage) : Decl :=
  let before := Sibling.comments ((p.pieces.head?.map Piece.lead).getD [])
  match p.body? "(" with
  | some body =>
      .types (before ++ Sibling.readAll (fun _ => Extent.typeSpec) TypeDecl.read body)
  | none => .types (before ++ Sibling.ofPieces p.pieces (TypeDecl.read p))

/-- A function or method after its keyword at `start`, or the start of another statement. -/
def readFunction (start : Place) (p : Passage) : Decl :=
  match p.word? with
  | some name =>
      let rest := p.drop 1
      let rest := if (rest.body? "[").isSome then rest.drop 1 else rest
      .function start name (Signature.read rest)
  | none =>
      match Extent.isMethod p.marks, p.body? "(", (p.drop 1).word? with
      | true, some receiver, some name =>
          .method (ParamItem.readList receiver) name (Signature.read (p.drop 2))
      | _, _, _ => .other

def read (p : Passage) : Decl :=
  let rest := p.drop 1
  match p.word? with
  | some "package" => (rest.word?.map Decl.package).getD .other
  | some "type" => readTypes rest
  | some "func" => readFunction p.start rest
  | _ => .other

end Decl

/-! ## Files -/

def Extent.item (fuel : Nat) (ms : List Mark) : Nat :=
  Extent.completed (Extent.statement true fuel ms) ms

def File.parse (source : String) : File :=
  let tokens := Token.scan source.toList
  { items := Sibling.readAll Extent.item Decl.read tokens
    hidesComment := tokens.any (·.kind == .comment) }

end Source
end GoSurvey
