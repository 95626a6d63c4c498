import Mathlib.Data.List.Flatten
import GoSurvey.Source.Declaration

/-!
# Source order

Items and comments stand in a list in the order in which they are written: none starts on a row
before the one on which its predecessor ends. The tokens of a text have this order, grouping tokens
into pieces keeps it, and so does reading pieces as items, at the top of a file as inside of type
declarations and interfaces.

* `Token.RowsOrdered` — the order of tokens;
* `Pieces.tokens_ofTokens` — pieces hold the tokens that they were made from, in order;
* `Sibling.InOrder`, `File.InOrder` — the order of items and comments;
* `File.inOrder_parse` — a parsed file is in order throughout.
-/

namespace GoSurvey
namespace Source

/-! ## Tokens -/

theorem Place.row_le_after (p : Place) (s : List Char) : p.row ≤ (p.after s).row := by
  induction s generalizing p with
  | nil => exact Nat.le_refl p.row
  | cons c s ih =>
      have hnext : p.row ≤ (p.next c).row := by
        unfold Place.next
        split
        · exact Nat.le_succ p.row
        · exact Nat.le_refl p.row
      exact Nat.le_trans hnext (ih (p.next c))

namespace Token

/-- Each token ends before the row on which a later one starts, or on it. -/
def RowsOrdered (ts : List Token) : Prop :=
  ts.Pairwise fun t u => t.stop.row ≤ u.start.row

theorem rowsOrdered_append {ts us : List Token} :
    RowsOrdered (ts ++ us) ↔
      RowsOrdered ts ∧ RowsOrdered us ∧ ∀ t ∈ ts, ∀ u ∈ us, t.stop.row ≤ u.start.row :=
  List.pairwise_append

theorem RowsOrdered.sublist {ts us : List Token} (h : RowsOrdered us) (hsub : ts.Sublist us) :
    RowsOrdered ts :=
  List.Pairwise.sublist hsub h

theorem start_row_le_stop_row (t : Token) : t.start.row ≤ t.stop.row :=
  Place.row_le_after t.start t.text

/-- No token starts above the place the scan starts from. -/
theorem row_le_of_mem_scanFrom {p : Place} {s : List Char} {t : Token} (h : t ∈ scanFrom p s) :
    p.row ≤ t.start.row := by
  rcases List.append_of_mem h with ⟨before, later, hsplit⟩
  rw [scanFrom_start hsplit]
  exact Place.row_le_after p _

/-- Tokens come row by row. -/
theorem rowsOrdered_scanFrom (p : Place) (s : List Char) : RowsOrdered (scanFrom p s) := by
  fun_induction scanFrom p s with
  | case1 => exact List.Pairwise.nil
  | case2 p c s kind size found text ih =>
      refine List.Pairwise.cons ?_ ih
      intro u hu
      exact row_le_of_mem_scanFrom hu

theorem rowsOrdered_scan (s : List Char) : RowsOrdered (scan s) := by
  cases s with
  | nil => exact List.Pairwise.nil
  | cons c s =>
      simp only [scan]
      split
      · refine List.Pairwise.cons ?_ (rowsOrdered_scanFrom _ _)
        intro u hu
        exact row_le_of_mem_scanFrom hu
      · exact rowsOrdered_scanFrom _ _

/-- The first of some tokens in order starts no later than the last one ends. -/
theorem RowsOrdered.start_le_stop {t last : Token} {ts : List Token} (h : RowsOrdered (t :: ts))
    (hlast : (t :: ts).getLast? = some last) : t.start.row ≤ last.stop.row := by
  rcases List.mem_cons.1 (List.mem_of_getLast? hlast) with rfl | hmem
  · exact start_row_le_stop_row last
  · calc t.start.row ≤ t.stop.row := start_row_le_stop_row t
      _ ≤ last.start.row := (List.pairwise_cons.1 h).1 last hmem
      _ ≤ last.stop.row := start_row_le_stop_row last

end Token

/-! ## Pieces -/

def Chunk.tokens : Chunk → List Token
  | leaf t => [t]
  | group opening body closing => opening :: (body ++ closing.toList)

def Piece.tokens (p : Piece) : List Token :=
  p.lead ++ p.chunk.tokens

def Passage.tokens (p : Passage) : List Token :=
  p.pieces.flatMap Piece.tokens

theorem Chunk.tokens_eq_cons_first (c : Chunk) : ∃ later, c.tokens = c.first :: later := by
  cases c with
  | leaf t => exact ⟨[], rfl⟩
  | group opening body closing => exact ⟨_, rfl⟩

/-- A chunk ends with its last token. -/
theorem Chunk.getLast?_tokens (c : Chunk) : c.tokens.getLast? = some c.last := by
  cases c with
  | leaf t => rfl
  | group opening body closing =>
      cases closing with
      | none =>
          simp only [tokens, last, Option.toList_none, List.append_nil, Option.none_or,
            List.getLast?_cons]
      | some t => simp [tokens, last, List.getLast?_cons]

def OpenGroup.tokens (g : OpenGroup) : List Token :=
  g.opening :: g.body.reverse

/-- Chunks hold all tokens, in their order. -/
theorem flatMap_tokens_chunksFrom (g : Option OpenGroup) (ts : List Token) :
    (chunksFrom g ts).flatMap Chunk.tokens = (g.map OpenGroup.tokens).getD [] ++ ts := by
  fun_induction chunksFrom g ts with
  | case1 => rfl
  | case2 g => simp [Chunk.tokens, OpenGroup.tokens]
  | case3 t ts hopens ih => simpa [OpenGroup.tokens] using ih
  | case4 t ts hopens ih => simpa [Chunk.tokens] using ih
  | case5 g t ts hopens ih => simpa [OpenGroup.tokens] using ih
  | case6 g t ts hopens hcloses hdepth ih => simpa [Chunk.tokens, OpenGroup.tokens] using ih
  | case7 g t ts hopens hcloses depth hdepth ih => simpa [OpenGroup.tokens] using ih
  | case8 g t ts hopens hcloses ih => simpa [OpenGroup.tokens] using ih

namespace Pieces

/-- Pieces hold all tokens of their chunks, those before them and those behind the last. -/
theorem tokens_ofChunks (lead : List Token) (cs : List Chunk) :
    (ofChunks lead cs).list.flatMap Piece.tokens ++ (ofChunks lead cs).trailing =
      lead.reverse ++ cs.flatMap Chunk.tokens := by
  induction cs generalizing lead with
  | nil => simp [ofChunks]
  | cons c cs ih =>
      cases htrivia : c.trivia? with
      | none => simp [ofChunks, htrivia, Piece.tokens, ih]
      | some t =>
          have htokens : c.tokens = [t] := by
            unfold Chunk.trivia? at htrivia
            split at htrivia
            next u =>
              obtain ⟨-, rfl⟩ : u.isTrivia = true ∧ u = t := by simpa using htrivia
              rfl
            next => simp at htrivia
          simp [ofChunks, htrivia, htokens, ih]

/-- Pieces hold the tokens that they were made from, in order. -/
theorem tokens_ofTokens (ts : List Token) :
    (ofTokens ts).list.flatMap Piece.tokens ++ (ofTokens ts).trailing = ts := by
  simp [ofTokens, tokens_ofChunks, flatMap_tokens_chunksFrom]

end Pieces

theorem Passage.tokens_drop_sublist (n : Nat) (p : Passage) : (p.drop n).tokens.Sublist p.tokens :=
  (List.drop_sublist n p.pieces).flatMap Piece.tokens

/-- The trivia before a bracketed group and the tokens inside of it, in order. -/
theorem Passage.body?_eq_some {p : Passage} {s : String} {body : List Token}
    (h : p.body? s = some body) :
    ∃ piece later, p.pieces = piece :: later ∧ (piece.lead ++ body).Sublist p.tokens := by
  rcases Option.bind_eq_some_iff.1 h with ⟨piece, hhead, hbody⟩
  rcases List.head?_eq_some_iff.1 hhead with ⟨later, hpieces⟩
  refine ⟨piece, later, hpieces, ?_⟩
  have hchunk : body.Sublist piece.chunk.tokens := by
    unfold Chunk.body? at hbody
    split at hbody
    next => simp at hbody
    next opening inside closing hgroup =>
      obtain ⟨-, rfl⟩ : opening.isSymbol s = true ∧ inside = body := by simpa using hbody
      rw [hgroup]
      exact (List.sublist_append_left inside _).trans (List.sublist_cons_self opening _)
  have hpiece : (piece.lead ++ body).Sublist piece.tokens := hchunk.append_left piece.lead
  rw [tokens, hpieces, List.flatMap_cons]
  exact hpiece.trans (List.sublist_append_left _ _)

/-! ## Items and comments -/

namespace Sibling

variable {α : Type}

def startRow : Sibling α → Nat
  | comment c => c.startRow
  | item startRow _ _ => startRow

def endRow : Sibling α → Nat
  | comment c => c.endRow
  | item _ endRow _ => endRow

/-- The elements of a list stand one after the other. -/
structure InOrder (l : List (Sibling α)) : Prop where
  startRow_le_endRow : ∀ s ∈ l, s.startRow ≤ s.endRow
  endRow_le_startRow : l.Pairwise fun a b => a.endRow ≤ b.startRow

/-- Elements that were read from tokens: each starts with one of them and ends with one, they stand
in order, and the items have the property `P`. -/
structure ReadFrom (P : α → Prop) (ts : List Token) (l : List (Sibling α)) : Prop where
  inOrder : InOrder l
  starts : ∀ s ∈ l, ∃ t ∈ ts, t.start.row = s.startRow
  ends : ∀ s ∈ l, ∃ t ∈ ts, t.stop.row = s.endRow
  items : ∀ startRow endRow value, item startRow endRow value ∈ l → P value

variable {P : α → Prop} {ts us : List Token} {l m : List (Sibling α)}

theorem ReadFrom.nil : ReadFrom P ts [] :=
  ⟨⟨by simp, List.Pairwise.nil⟩, by simp, by simp, by simp⟩

theorem ReadFrom.mono (h : ReadFrom P ts l) (hsub : ts ⊆ us) : ReadFrom P us l where
  inOrder := h.inOrder
  starts s hs := (h.starts s hs).imp fun _ ht => ⟨hsub ht.1, ht.2⟩
  ends s hs := (h.ends s hs).imp fun _ ht => ⟨hsub ht.1, ht.2⟩
  items := h.items

/-- What is read from earlier tokens stands before what is read from later ones. -/
theorem ReadFrom.append (hts : Token.RowsOrdered (ts ++ us)) (hl : ReadFrom P ts l)
    (hm : ReadFrom P us m) : ReadFrom P (ts ++ us) (l ++ m) where
  inOrder := by
    refine ⟨?_, List.pairwise_append.2
      ⟨hl.inOrder.endRow_le_startRow, hm.inOrder.endRow_le_startRow, ?_⟩⟩
    · intro s hs
      rcases List.mem_append.1 hs with hs | hs
      · exact hl.inOrder.startRow_le_endRow s hs
      · exact hm.inOrder.startRow_le_endRow s hs
    · intro a ha b hb
      rcases hl.ends a ha with ⟨t, ht, hstop⟩
      rcases hm.starts b hb with ⟨u, hu, hstart⟩
      rw [← hstop, ← hstart]
      exact (Token.rowsOrdered_append.1 hts).2.2 t ht u hu
  starts := by
    intro s hs
    rcases List.mem_append.1 hs with hs | hs
    · exact ((hl.mono (List.subset_append_left ts us)).starts s hs)
    · exact ((hm.mono (List.subset_append_right ts us)).starts s hs)
  ends := by
    intro s hs
    rcases List.mem_append.1 hs with hs | hs
    · exact ((hl.mono (List.subset_append_left ts us)).ends s hs)
    · exact ((hm.mono (List.subset_append_right ts us)).ends s hs)
  items := by
    intro startRow endRow value hmem
    rcases List.mem_append.1 hmem with hmem | hmem
    · exact hl.items startRow endRow value hmem
    · exact hm.items startRow endRow value hmem

/-- The comments among the tokens come in order. -/
theorem readFrom_comments (hts : Token.RowsOrdered ts) :
    ReadFrom P ts (comments ts : List (Sibling α)) := by
  have hmem : ∀ s ∈ (comments ts : List (Sibling α)),
      ∃ t ∈ ts, s = comment ⟨String.ofList t.text, t.start.row, t.stop.row⟩ := by
    intro s hs
    rcases List.mem_map.1 hs with ⟨t, ht, rfl⟩
    exact ⟨t, (List.mem_filter.1 ht).1, rfl⟩
  refine ⟨⟨?_, ?_⟩, ?_, ?_, ?_⟩
  · intro s hs
    rcases hmem s hs with ⟨t, -, rfl⟩
    exact t.start_row_le_stop_row
  · exact List.pairwise_map.2 (List.Pairwise.filter _ hts)
  · intro s hs
    rcases hmem s hs with ⟨t, ht, rfl⟩
    exact ⟨t, ht, rfl⟩
  · intro s hs
    rcases hmem s hs with ⟨t, ht, rfl⟩
    exact ⟨t, ht, rfl⟩
  · intro startRow endRow value hitem
    rcases hmem _ hitem with ⟨t, -, hcomment⟩
    simp at hcomment

/-- The pieces of an entry make one item, from its first token to its last. -/
theorem readFrom_ofPieces {p : Piece} {ps : List Piece} {value : α}
    (hts : Token.RowsOrdered (p.chunk.tokens ++ ps.flatMap Piece.tokens)) (hvalue : P value) :
    ReadFrom P (p.chunk.tokens ++ ps.flatMap Piece.tokens) (ofPieces (p :: ps) value) := by
  rcases p.chunk.tokens_eq_cons_first with ⟨later, hfirst⟩
  -- The last token of the last piece is the last of all.
  obtain ⟨last, hlast, hend⟩ : ∃ last, (p :: ps).getLast? = some last ∧
      (p.chunk.tokens ++ ps.flatMap Piece.tokens).getLast? = some last.chunk.last := by
    rcases List.eq_nil_or_concat ps with rfl | ⟨init, q, rfl⟩
    · exact ⟨p, rfl, by simp [Chunk.getLast?_tokens]⟩
    · refine ⟨q, by simp [List.getLast?_cons], ?_⟩
      simp [Piece.tokens, List.getLast?_append, Chunk.getLast?_tokens]
  have hitem : ofPieces (p :: ps) value = [item p.start.row last.endRow value] := by
    simp [ofPieces, hlast]
  have hle : p.start.row ≤ last.endRow := by
    rw [hfirst, List.cons_append] at hts hend
    exact hts.start_le_stop hend
  rw [hitem]
  refine ⟨⟨?_, List.pairwise_singleton _ _⟩, ?_, ?_, ?_⟩
  · simpa [startRow, endRow] using hle
  · intro s hs
    obtain rfl := List.mem_singleton.1 hs
    exact ⟨p.chunk.first, by simp [hfirst], rfl⟩
  · intro s hs
    obtain rfl := List.mem_singleton.1 hs
    exact ⟨last.chunk.last, List.mem_of_getLast? hend, rfl⟩
  · intro startRow endRow value' hmem
    obtain ⟨-, -, rfl⟩ : startRow = p.start.row ∧ endRow = last.endRow ∧ value' = value := by
      simpa using hmem
    exact hvalue

/-- An entry and the comments before it. -/
theorem readFrom_entry {p : Piece} {ps : List Piece} {value : α}
    (hts : Token.RowsOrdered ((p :: ps).flatMap Piece.tokens)) (hvalue : P value) :
    ReadFrom P ((p :: ps).flatMap Piece.tokens) (comments p.lead ++ ofPieces (p :: ps) value) := by
  have htokens : (p :: ps).flatMap Piece.tokens =
      p.lead ++ (p.chunk.tokens ++ ps.flatMap Piece.tokens) := by
    simp [Piece.tokens]
  rw [htokens] at hts ⊢
  have hparts := Token.rowsOrdered_append.1 hts
  exact ReadFrom.append hts (readFrom_comments hparts.1) (readFrom_ofPieces hparts.2.1 hvalue)

/-- Reading a passage entry by entry keeps the order of its tokens. -/
theorem readFrom_readPassage {size : List Mark → Nat} {read : Passage → α}
    (hread : ∀ p : Passage, Token.RowsOrdered p.tokens → P (read p)) {ps : List Piece}
    {ms : List Mark} (hts : Token.RowsOrdered (ps.flatMap Piece.tokens)) :
    ReadFrom P (ps.flatMap Piece.tokens) (readPassage size read ps ms) := by
  fun_induction readPassage size read ps ms with
  | case1 => exact ReadFrom.nil
  | case2 p ps ms n entry ihTerminated ih =>
      -- An entry takes its first piece in any case, so the list gets shorter.
      have hentry : entry = p :: ps.take (n - 1) := by
        have hpos : n = n - 1 + 1 := by omega
        simp only [entry]
        rw [hpos, List.take_succ_cons, Nat.add_sub_cancel]
      have htokens : (p :: ps).flatMap Piece.tokens =
          entry.flatMap Piece.tokens ++ (ps.drop (n - 1)).flatMap Piece.tokens := by
        rw [hentry, ← List.flatMap_append, List.cons_append, List.take_append_drop]
      rw [htokens] at hts ⊢
      have hparts := Token.rowsOrdered_append.1 hts
      have hvalue : P (read ⟨entry, ms.take n⟩) := hread _ hparts.1
      refine ReadFrom.append hts ?_ ?_
      · have hfirst := hparts.1
        rw [hentry] at hfirst hvalue ⊢
        exact readFrom_entry hfirst hvalue
      · split
        next => exact ReadFrom.nil
        next q qs hdrop =>
          have hlater : Token.RowsOrdered (q.tokens ++ qs.flatMap Piece.tokens) := by
            rw [hdrop] at hparts
            exact hparts.2.1
          rw [hdrop]
          split
          · -- A terminator belongs to no entry, but comments may stand before it.
            have hrest := Token.rowsOrdered_append.1 hlater
            have hcomments : ReadFrom P q.tokens (comments q.lead) :=
              (readFrom_comments (Token.rowsOrdered_append.1 hrest.1).1).mono
                (List.subset_append_left _ _)
            exact ReadFrom.append hlater hcomments (ihTerminated q qs hdrop hrest.2.1)
          · exact ih q qs hdrop hlater

/-- All entries of a list come in order, with the comments around them. -/
theorem readFrom_readAll {size : Nat → List Mark → Nat} {read : Passage → α}
    (hread : ∀ p : Passage, Token.RowsOrdered p.tokens → P (read p))
    (hts : Token.RowsOrdered ts) : ReadFrom P ts (readAll size read ts) := by
  rw [← Pieces.tokens_ofTokens ts] at hts
  have hall : ReadFrom P
      ((Pieces.ofTokens ts).list.flatMap Piece.tokens ++ (Pieces.ofTokens ts).trailing)
      (readAll size read ts) :=
    ReadFrom.append hts (readFrom_readPassage hread (Token.rowsOrdered_append.1 hts).1)
      (readFrom_comments (Token.rowsOrdered_append.1 hts).2.1)
  rwa [Pieces.tokens_ofTokens] at hall

/-- Comments before a bracketed group and the entries inside of it. -/
theorem readFrom_body {size : Nat → List Mark → Nat} {read : Passage → α}
    (hread : ∀ p : Passage, Token.RowsOrdered p.tokens → P (read p)) {p : Passage} {s : String}
    {body : List Token} (hbody : p.body? s = some body) (hts : Token.RowsOrdered p.tokens) :
    ReadFrom P p.tokens
      (comments ((p.pieces.head?.map Piece.lead).getD []) ++ readAll size read body) := by
  rcases Passage.body?_eq_some hbody with ⟨piece, later, hpieces, hsub⟩
  have hinside := hts.sublist hsub
  have hlead : (p.pieces.head?.map Piece.lead).getD [] = piece.lead := by simp [hpieces]
  rw [hlead]
  exact (ReadFrom.append hinside (readFrom_comments (Token.rowsOrdered_append.1 hinside).1)
    (readFrom_readAll hread (Token.rowsOrdered_append.1 hinside).2.1)).mono hsub.subset

end Sibling

/-! ## Files -/

/-- The elements of a type that is an interface stand in order. -/
def TypeDecl.InOrder : TypeDecl → Prop
  | .spec _ (.interface _ elements) => Sibling.InOrder elements
  | _ => True

/-- The entries of a type declaration stand in order, and so do the elements of each. -/
def Decl.InOrder : Decl → Prop
  | .types entries =>
      Sibling.InOrder entries ∧
        ∀ startRow endRow entry, Sibling.item startRow endRow entry ∈ entries → entry.InOrder
  | _ => True

/-- The items of a file stand in order, and so does what is listed in each. -/
def File.InOrder (f : File) : Prop :=
  Sibling.InOrder f.items ∧
    ∀ startRow endRow decl, Sibling.item startRow endRow decl ∈ f.items → decl.InOrder

/-- The body of a type has its elements in order. -/
theorem TypeDecl.inOrder_spec (name : String) {p : Passage} (hts : Token.RowsOrdered p.tokens) :
    (TypeDecl.spec name (TypeBody.read p)).InOrder := by
  simp only [TypeBody.read]
  split
  next => trivial
  next body hbody =>
    split
    · trivial
    · split
      · have hinside := hts.sublist (p.tokens_drop_sublist 1)
        -- Nothing is asked of the elements themselves.
        exact
          (Sibling.readFrom_body (P := fun _ => True) (fun _ _ => trivial) hbody hinside).inOrder
      · trivial

theorem TypeDecl.inOrder_read {p : Passage} (hts : Token.RowsOrdered p.tokens) :
    (TypeDecl.read p).InOrder := by
  simp only [TypeDecl.read]
  split
  · trivial
  · split
    · trivial
    · have hrest := hts.sublist (p.tokens_drop_sublist 1)
      exact inOrder_spec _ (hrest.sublist ((p.drop 1).tokens_drop_sublist _))

namespace Decl

theorem inOrder_types {ts : List Token} {entries : List (Sibling TypeDecl)}
    (h : Sibling.ReadFrom TypeDecl.InOrder ts entries) : (Decl.types entries).InOrder :=
  ⟨h.inOrder, h.items⟩

theorem inOrder_readTypes {p : Passage} (hts : Token.RowsOrdered p.tokens) :
    (readTypes p).InOrder := by
  have hread : ∀ p : Passage, Token.RowsOrdered p.tokens → (TypeDecl.read p).InOrder := fun _ hp =>
    TypeDecl.inOrder_read hp
  simp only [readTypes]
  split
  next body hbody => exact inOrder_types (Sibling.readFrom_body hread hbody hts)
  next =>
    rcases p with ⟨pieces, marks⟩
    cases pieces with
    | nil => exact inOrder_types (Sibling.ReadFrom.nil : Sibling.ReadFrom _ [] [])
    | cons piece later => exact inOrder_types (Sibling.readFrom_entry hts (hread _ hts))

theorem inOrder_read {p : Passage} (hts : Token.RowsOrdered p.tokens) : (read p).InOrder := by
  simp only [read]
  split
  · cases (p.drop 1).word? with
    | none => trivial
    | some name => trivial
  · exact inOrder_readTypes (hts.sublist (p.tokens_drop_sublist 1))
  · simp only [readFunction]
    split
    · trivial
    · split
      · trivial
      · trivial
  · trivial

end Decl

/-- A parsed file is in order throughout. -/
theorem File.inOrder_parse (source : String) : (File.parse source).InOrder := by
  have hread : Sibling.ReadFrom Decl.InOrder (Token.scan source.toList) (File.parse source).items :=
    Sibling.readFrom_readAll (fun _ hp => Decl.inOrder_read hp)
      (Token.rowsOrdered_scan source.toList)
  exact ⟨hread.inOrder, hread.items⟩

end Source
end GoSurvey
