import GoSurvey.Text.CharClass

/-!
# Cutting text

Texts are lists of characters here, and file names lists of bytes. Everything that splits, strips
or trims one is in this file.

* `cut? sep s` — what stands before and after the first `sep`;
* `splitOn sep s` — the pieces between the separators, at least one;
* `dropPrefix? p s`, `dropSuffix? p s` — `s` without `p` at its start or end;
* `trimStart`, `trimEnd`, `trim` — `s` without blanks at its ends;
* `lines s` — the lines of `s` without their ends.
-/

namespace GoSurvey
namespace Text

variable {α : Type} [DecidableEq α]

/-! ## Separators -/

def cut? (sep : α) : List α → Option (List α × List α)
  | [] => none
  | c :: s =>
      if c = sep then some ([], s)
      else (cut? sep s).map fun (before, after) => (c :: before, after)

def splitOn (sep : α) : List α → List (List α)
  | [] => [[]]
  | c :: s =>
      if c = sep then [] :: splitOn sep s
      else
        match splitOn sep s with
        | [] => [[c]]
        | piece :: pieces => (c :: piece) :: pieces

def joinWith {α : Type} (sep : α) : List (List α) → List α
  | [] => []
  | [piece] => piece
  | piece :: pieces => piece ++ sep :: joinWith sep pieces

/-- Even the empty text has a piece, the empty one. -/
theorem splitOn_ne_nil (sep : α) (s : List α) : splitOn sep s ≠ [] := by
  cases s with
  | nil => simp [splitOn]
  | cons c s =>
      simp only [splitOn]
      split
      · simp
      · split <;> simp

/-- Joining undoes splitting. -/
theorem joinWith_splitOn (sep : α) (s : List α) : joinWith sep (splitOn sep s) = s := by
  induction s with
  | nil => rfl
  | cons c s ih =>
      have nonempty := splitOn_ne_nil sep s
      simp only [splitOn]
      split
      next same =>
        cases pieces : splitOn sep s with
        | nil => exact absurd pieces nonempty
        | cons piece rest => rw [pieces] at ih; simp [joinWith, ih, same]
      next =>
        cases pieces : splitOn sep s with
        | nil => exact absurd pieces nonempty
        | cons piece rest =>
            rw [pieces] at ih
            cases rest with
            | nil => simpa [joinWith] using ih
            | cons next rest => simpa [joinWith] using ih

/-- A separator cuts a text in two. -/
theorem splitOn_append (sep : α) (s t : List α) :
    splitOn sep (s ++ sep :: t) = splitOn sep s ++ splitOn sep t := by
  induction s with
  | nil => simp [splitOn]
  | cons c s ih =>
      have nonempty := splitOn_ne_nil sep s
      simp only [List.cons_append, splitOn]
      split
      · simp [ih]
      · cases pieces : splitOn sep s with
        | nil => exact absurd pieces nonempty
        | cons piece rest => simp [ih, pieces]

/-- A text without separators is one piece. -/
theorem splitOn_of_not_mem {sep : α} {s : List α} (absent : sep ∉ s) : splitOn sep s = [s] := by
  induction s with
  | nil => rfl
  | cons c s ih =>
      have different : c ≠ sep := fun same => absent (same ▸ List.mem_cons_self)
      have one := ih fun later => absent (List.mem_cons_of_mem c later)
      simp [splitOn, different, one]

/-- No piece holds the separator. -/
theorem not_mem_of_mem_splitOn {sep : α} {s piece : List α} (h : piece ∈ splitOn sep s) :
    sep ∉ piece := by
  induction s generalizing piece with
  | nil =>
      have hnil : piece = [] := by simpa [splitOn] using h
      simp [hnil]
  | cons c s ih =>
      simp only [splitOn] at h
      split at h
      next =>
        rcases List.mem_cons.1 h with rfl | hlater
        · simp
        · exact ih hlater
      next different =>
        cases pieces : splitOn sep s with
        | nil => exact absurd pieces (splitOn_ne_nil sep s)
        | cons first rest =>
            simp only [pieces, List.mem_cons] at h ih
            rcases h with rfl | hlater
            -- The character goes to the first piece of the rest, and is no separator.
            · have hfirst : sep ∉ first := ih (Or.inl rfl)
              intro hmem
              rcases List.mem_cons.1 hmem with same | hmem
              · exact different same.symm
              · exact hfirst hmem
            · exact ih (Or.inr hlater)

/-- Splitting undoes joining. -/
theorem splitOn_joinWith {sep : α} {pieces : List (List α)} (nonempty : pieces ≠ [])
    (absent : ∀ piece ∈ pieces, sep ∉ piece) : splitOn sep (joinWith sep pieces) = pieces := by
  induction pieces with
  | nil => exact absurd rfl nonempty
  | cons piece rest ih =>
      have hpiece : splitOn sep piece = [piece] :=
        splitOn_of_not_mem (absent piece List.mem_cons_self)
      cases rest with
      | nil => exact hpiece
      | cons next rest =>
          -- The first separator is that behind the first piece, which holds none.
          have hrest := ih (by simp) fun later hlater =>
            absent later (List.mem_cons_of_mem piece hlater)
          simp only [joinWith, splitOn_append, hpiece, hrest, List.singleton_append]

/-- A cut is made at the first separator. -/
theorem cut?_eq_some_iff {sep : α} {s before after : List α} :
    cut? sep s = some (before, after) ↔ sep ∉ before ∧ s = before ++ sep :: after := by
  constructor
  · intro h
    induction s generalizing before with
    | nil => simp [cut?] at h
    | cons c s ih =>
        by_cases same : c = sep
        · have hcut : before = [] ∧ s = after := by simpa [cut?, same, eq_comm] using h
          simp [hcut, same]
        · have hcut : ∃ inner, cut? sep s = some (inner, after) ∧ c :: inner = before := by
            simpa [cut?, same] using h
          rcases hcut with ⟨inner, hinner, rfl⟩
          rcases ih hinner with ⟨absent, rfl⟩
          exact ⟨by simp [absent, Ne.symm same], rfl⟩
  · intro h
    rcases h with ⟨absent, rfl⟩
    induction before with
    | nil => simp [cut?]
    | cons c before ih =>
        have different : c ≠ sep := fun same => absent (same ▸ List.mem_cons_self)
        have hlater := ih fun later => absent (List.mem_cons_of_mem c later)
        simp [cut?, different, hlater]

/-- One piece more at the end comes with one separator. -/
theorem joinWith_concat {α : Type} {sep : α} {pieces : List (List α)} (nonempty : pieces ≠ [])
    (last : List α) : joinWith sep (pieces ++ [last]) = joinWith sep pieces ++ sep :: last := by
  induction pieces with
  | nil => exact absurd rfl nonempty
  | cons piece rest ih =>
      cases rest with
      | nil => rfl
      | cons next rest => simpa [joinWith] using ih (by simp)

/-- Only two lists of pieces make the empty text: the one without pieces, and that of the empty
piece. -/
theorem joinWith_eq_nil {α : Type} {sep : α} {pieces : List (List α)}
    (empty : joinWith sep pieces = []) : pieces = [] ∨ pieces = [[]] := by
  cases pieces with
  | nil => exact Or.inl rfl
  | cons piece rest =>
      cases rest with
      | nil => exact Or.inr (by simpa [joinWith] using empty)
      | cons next rest => simp [joinWith] at empty

/-! ## Ends -/

def dropPrefix? : List α → List α → Option (List α)
  | [], s => some s
  | _ :: _, [] => none
  | p :: ps, c :: s => if c = p then dropPrefix? ps s else none

def dropSuffix? (p s : List α) : Option (List α) :=
  (dropPrefix? p.reverse s.reverse).map List.reverse

/-- What is left when a start has been taken away is what was put behind it. -/
theorem dropPrefix?_eq_some_iff {p s rest : List α} :
    dropPrefix? p s = some rest ↔ s = p ++ rest := by
  induction p generalizing s with
  | nil => simp [dropPrefix?]
  | cons c p ih =>
      cases s with
      | nil => simp [dropPrefix?]
      | cons d s => by_cases same : d = c <;> simp [dropPrefix?, same, ih]

/-- What is left when an end has been taken away is what it was put behind. -/
theorem dropSuffix?_eq_some_iff {p s rest : List α} :
    dropSuffix? p s = some rest ↔ s = rest ++ p := by
  simp only [dropSuffix?, Option.map_eq_some_iff, dropPrefix?_eq_some_iff]
  constructor
  · rintro ⟨r, reversed, rfl⟩
    have := congrArg List.reverse reversed
    simpa using this
  · rintro rfl
    exact ⟨rest.reverse, by simp, by simp⟩

def dropOne (c : α) (s : List α) : List α :=
  (dropPrefix? [c] s).getD s

def dropEndWhile {α : Type} (p : α → Bool) (s : List α) : List α :=
  (s.reverse.dropWhile p).reverse

/-- What is dropped from the end of a text is made of the characters to drop. -/
theorem exists_dropEndWhile_append {α : Type} (p : α → Bool) (s : List α) :
    ∃ dropped, s = dropEndWhile p s ++ dropped ∧ ∀ c ∈ dropped, p c = true := by
  refine ⟨(s.reverse.takeWhile p).reverse, ?_, ?_⟩
  · rw [dropEndWhile, ← List.reverse_append, List.takeWhile_append_dropWhile, List.reverse_reverse]
  · intro c hc
    exact List.all_eq_true.1 List.all_takeWhile c (List.mem_reverse.1 hc)

/-- One more character to drop at the end changes nothing. -/
theorem dropEndWhile_concat {α : Type} {p : α → Bool} {c : α} (hc : p c = true) (s : List α) :
    dropEndWhile p (s ++ [c]) = dropEndWhile p s := by
  simp [dropEndWhile, hc]

def trimStart (s : List Char) : List Char :=
  s.dropWhile isBlank

def trimEnd (s : List Char) : List Char :=
  dropEndWhile isBlank s

def trim (s : List Char) : List Char :=
  trimEnd (trimStart s)

/-- A blank at the end makes no difference to what is left. -/
theorem trim_concat {c : Char} (hc : isBlank c = true) (s : List Char) :
    trim (s ++ [c]) = trim s := by
  rw [trim, trimStart, List.dropWhile_append]
  split
  next hempty =>
    have hnil : s.dropWhile isBlank = [] := by simpa using hempty
    simp [trim, trimStart, hnil, hc]
  next => exact dropEndWhile_concat hc _

/-! ## Lines -/

def dropReturn (line : List Char) : List Char :=
  (dropSuffix? ['\r'] line).getD line

/-- The lines that a list of newline-separated pieces stands for: each piece but the last was
ended by a newline, and an empty last piece is no line. -/
def linesOfPieces : List (List Char) → List (List Char)
  | [] => []
  | [last] => if last.isEmpty then [] else [last]
  | piece :: pieces => dropReturn piece :: linesOfPieces pieces

/-- The lines of a text. A line ends at a newline, with which one carriage return goes; what
follows the last newline is a line too unless it is empty. -/
def lines (s : List Char) : List (List Char) :=
  linesOfPieces (splitOn '\n' s)

end Text
end GoSurvey
