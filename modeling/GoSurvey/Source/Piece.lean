import GoSurvey.Source.Token

/-!
# Pieces

Between lexing and reading, tokens are put together: what stands between a bracket and the one
that closes it becomes one group, and blanks, line ends and comments go to the piece that they
stand before.

* `Chunk` — a token or a bracketed group;
* `Piece` — a chunk with the trivia before it;
* `Pieces.ofTokens` — the pieces of a token list, and the trivia after the last of them;
* `Pieces.render` — the source text of pieces.

The tokens of a group stay a flat list, and are put together in turn only where a reader looks
inside.
-/

namespace GoSurvey
namespace Source

/-- A token, or a bracketed group with its tokens in a flat list. -/
inductive Chunk where
  | leaf (token : Token)
  | group (opening : Token) (body : List Token) (closing : Option Token)
deriving DecidableEq

/-- A chunk and the blanks, line ends and comments before it. -/
structure Piece where
  lead : List Token
  chunk : Chunk
deriving DecidableEq

/-! ## Chunks -/

namespace Chunk

def first : Chunk → Token
  | leaf t => t
  | group opening _ _ => opening

def last : Chunk → Token
  | leaf t => t
  | group opening body closing => (closing.or body.getLast?).getD opening

def render : Chunk → List Char
  | leaf t => t.text
  | group opening body closing =>
      opening.text ++ body.flatMap (·.text) ++ (closing.map (·.text)).getD []

def isSymbol (c : Chunk) (s : String) : Bool :=
  match c with
  | leaf t => t.isSymbol s
  | group _ _ _ => false

def body? (c : Chunk) (s : String) : Option (List Token) :=
  match c with
  | leaf _ => none
  | group opening body _ => if opening.isSymbol s then some body else none

end Chunk

/-! ## Grouping -/

/-- An open group while its tokens are collected: the bracket, how many more are open inside it,
and the tokens so far, the last one first. -/
structure OpenGroup where
  opening : Token
  depth : Nat
  body : List Token

/-- The chunks of a token list. A group that is never closed takes all that follows. -/
def chunksFrom : Option OpenGroup → List Token → List Chunk
  | none, [] => []
  | some g, [] => [.group g.opening g.body.reverse none]
  | none, t :: ts =>
      if t.opens then chunksFrom (some ⟨t, 0, []⟩) ts else .leaf t :: chunksFrom none ts
  | some g, t :: ts =>
      if t.opens then chunksFrom (some { g with depth := g.depth + 1, body := t :: g.body }) ts
      else if t.closes then
        match g.depth with
        | 0 => .group g.opening g.body.reverse (some t) :: chunksFrom none ts
        | depth + 1 => chunksFrom (some { g with depth := depth, body := t :: g.body }) ts
      else chunksFrom (some { g with body := t :: g.body }) ts

def Chunk.trivia? : Chunk → Option Token
  | .leaf t => if t.isTrivia then some t else none
  | .group _ _ _ => none

/-- Pieces in source order, and the trivia after the last. -/
structure Pieces where
  list : List Piece
  trailing : List Token
deriving DecidableEq

namespace Pieces

/-- Gives trivia to the piece that follows them; `lead` holds those already passed, the last one
first. -/
def ofChunks (lead : List Token) : List Chunk → Pieces
  | [] => ⟨[], lead.reverse⟩
  | c :: cs =>
      match c.trivia? with
      | some t => ofChunks (t :: lead) cs
      | none =>
          let rest := ofChunks [] cs
          ⟨⟨lead.reverse, c⟩ :: rest.list, rest.trailing⟩

def ofTokens (ts : List Token) : Pieces :=
  ofChunks [] (chunksFrom none ts)

def render : List Piece → List Char
  | [] => []
  | p :: ps =>
      p.chunk.render ++ ps.flatMap fun q => q.lead.flatMap (·.text) ++ q.chunk.render

end Pieces

/-! ## Views of a piece -/

namespace Piece

/-- Whether the piece starts a line, or follows a character that ends a statement. -/
def startsLine (p : Piece) : Bool :=
  p.lead.any (·.kind == .newline)

def commented (p : Piece) : Bool :=
  p.lead.any (·.kind == .comment)

def start (p : Piece) : Place :=
  p.chunk.first.start

def endRow (p : Piece) : Nat :=
  p.chunk.last.stop.row

end Piece
end Source
end GoSurvey
