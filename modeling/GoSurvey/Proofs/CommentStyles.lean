import GoSurvey.Proofs.AnnotationValues

/-!
# Line comments and block comments

The lines of a doc comment may stand in a row of line comments or in one block comment, with a star
before each. The two are read differently: only a block comment is cut into lines, and a line of it
loses the carriage return at its end.

* `Annotation.lineComment`, `Annotation.blockComment` — the two ways to write lines;
* `Annotation.bodies_blockComment` — the lines that a block comment is cut into;
* `Annotation.readLine_concat` — a blank at the end of a line makes no difference;
* `Annotation.line_and_block_comments_agree` — both ways give the same annotations.
-/

namespace GoSurvey

open Text

/-! ## Lines of a text -/

namespace Text

/-- A line loses a carriage return at its end, and nothing else. -/
theorem dropReturn_concat (s : List Char) (c : Char) :
    dropReturn (s ++ [c]) = if c = '\r' then s else s ++ [c] := by
  by_cases hreturn : c = '\r' <;> simp [dropReturn, dropSuffix?, dropPrefix?, hreturn]

/-- A character that is no carriage return does not count for the end of a line. -/
theorem dropReturn_cons {c : Char} (hc : c ≠ '\r') (s : List Char) :
    dropReturn (c :: s) = c :: dropReturn s := by
  rcases List.eq_nil_or_concat s with rfl | ⟨front, last, rfl⟩
  · simp [dropReturn, dropSuffix?, dropPrefix?, hc]
  · rw [List.concat_eq_append, ← List.cons_append, dropReturn_concat, dropReturn_concat]
    split <;> rfl

/-- Pieces with a separator after each are found again, and what follows the last one is a piece of
its own. -/
theorem splitOn_terminated {α : Type} [DecidableEq α] {sep : α} {pieces : List (List α)}
    (hpieces : ∀ piece ∈ pieces, sep ∉ piece) {last : List α} (hlast : sep ∉ last) :
    splitOn sep (pieces.flatMap (· ++ [sep]) ++ last) = pieces ++ [last] := by
  induction pieces with
  | nil => exact splitOn_of_not_mem hlast
  | cons piece rest ih =>
      rcases List.forall_mem_cons.1 hpieces with ⟨hpiece, hrest⟩
      simp only [List.flatMap_cons, List.append_assoc, List.cons_append, List.nil_append]
      rw [splitOn_append, splitOn_of_not_mem hpiece, ih hrest]
      rfl

/-- A last piece that is not empty is a line and keeps what is at its end. -/
theorem linesOfPieces_concat (pieces : List (List Char)) {last : List Char} (hlast : last ≠ []) :
    linesOfPieces (pieces ++ [last]) = pieces.map dropReturn ++ [last] := by
  induction pieces with
  | nil => simp [linesOfPieces, hlast]
  | cons piece rest ih =>
      have hstep : linesOfPieces (piece :: (rest ++ [last])) =
          dropReturn piece :: linesOfPieces (rest ++ [last]) := by
        cases rest <;> rfl
      simp [hstep, ih]

/-- A text of lines, each ended by a newline, and something after the last. -/
theorem lines_terminated {pieces : List (List Char)} (hpieces : ∀ piece ∈ pieces, '\n' ∉ piece)
    {last : List Char} (hlast : '\n' ∉ last) (hne : last ≠ []) :
    lines (pieces.flatMap (· ++ ['\n']) ++ last) = pieces.map dropReturn ++ [last] := by
  rw [lines, splitOn_terminated hpieces hlast, linesOfPieces_concat pieces hne]

end Text

namespace Annotation

/-! ## Blanks at the end of a line -/

theorem isBlank_ne {c : Char} (hc : isBlank c = true) : c ≠ '(' ∧ c ≠ ')' ∧ c ≠ '@' := by
  refine ⟨?_, ?_, ?_⟩
  all_goals
    rintro rfl
    revert hc
    decide

/-- No parenthesis is closed by another character at the end. -/
theorem enclosed_concat {c : Char} (hc : c ≠ ')') (depth : Nat) (mode : Mode) (s : List Char) :
    enclosed depth mode (s ++ [c]) = enclosed depth mode s := by
  induction s generalizing depth mode with
  | nil => simp [enclosed, hc]
  | cons d s ih =>
      rcases paren_cases mode d with ⟨rfl, rfl⟩ | ⟨rfl, rfl⟩ | ⟨hclose, hopen⟩
      · cases depth <;> simp [ih]
      · simp [ih]
      · rw [List.cons_append, enclosed_cons hclose hopen, enclosed_cons hclose hopen, ih]

/-- A character behind a line that is no parenthesis changes no value. -/
theorem readValue_concat {c : Char} (hopen : c ≠ '(') (hclose : c ≠ ')') (s : List Char) :
    readValue (s ++ [c]) = readValue s := by
  by_cases hparen : '(' ∈ s
  · rcases List.eq_append_cons_of_mem hparen with ⟨pre, rest, rfl, hpre⟩
    rw [List.append_assoc, List.cons_append, readValue_append_paren hpre,
      readValue_append_paren hpre, enclosed_concat hclose]
  · rw [readValue_of_no_paren hparen, readValue_of_no_paren]
    simp [hparen, Ne.symm hopen]

/-- A blank behind a line changes no name. -/
theorem trim_takeWhile_concat {c : Char} (hc : isBlank c = true) (s : List Char) :
    trim ((s ++ [c]).takeWhile (· ≠ '(')) = trim (s.takeWhile (· ≠ '(')) := by
  by_cases hparen : '(' ∈ s
  · rcases List.eq_append_cons_of_mem hparen with ⟨pre, rest, rfl, hpre⟩
    rw [List.append_assoc, List.cons_append, takeWhile_append_paren hpre,
      takeWhile_append_paren hpre]
  · have hblank : '(' ∉ s ++ [c] := by simp [hparen, Ne.symm (isBlank_ne hc).1]
    rw [takeWhile_of_no_paren hparen, takeWhile_of_no_paren hblank, trim_concat hc]

/-- A blank at the end of a line makes no difference: it is trimmed from a name, and it cannot close
a value. -/
theorem readLine_concat {c : Char} (hc : isBlank c = true) (line : List Char) :
    readLine (line ++ [c]) = readLine line := by
  rcases isBlank_ne hc with ⟨hopen, hclose, hsign⟩
  cases line with
  | nil => simp [readLine, hsign]
  | cons d s =>
      by_cases hd : d = '@'
      · subst hd
        simp only [List.cons_append, readLine, trim_takeWhile_concat hc,
          readValue_concat hopen hclose]
      · simp [readLine, hd]

/-- A carriage return at the end of a line makes no difference to what it says. -/
theorem readLine_dropReturn (line : List Char) : readLine (dropReturn line) = readLine line := by
  rcases List.eq_nil_or_concat line with rfl | ⟨front, last, rfl⟩
  · rfl
  · rw [List.concat_eq_append, dropReturn_concat]
    split
    next hreturn =>
      subst hreturn
      exact (readLine_concat (by decide) front).symm
    next => rfl

/-! ## The two ways to write lines -/

def lineComment (line : String) : String :=
  "// " ++ line

def blockComment (lines : List String) : String :=
  "/*\n" ++ String.join (lines.map fun line => " * " ++ line ++ "\n") ++ " */"

theorem bodies_lineComment (line : String) : bodies (lineComment line).toList = [line.toList] := by
  simp [bodies, lineComment, dropPrefix?, dropOne]

/-- A line of a block comment loses the star and the blanks around it. -/
theorem blockLine_star (line : List Char) : blockLine (' ' :: '*' :: ' ' :: line) = line := by
  have hspace : isBlank ' ' = true := by decide
  have hstar : isBlank '*' = false := by decide
  simp [blockLine, trimStart, hspace, hstar, dropOne, dropPrefix?]

theorem blockLine_dropReturn (line : List Char) :
    blockLine (dropReturn (' ' :: '*' :: ' ' :: line)) = dropReturn line := by
  rw [dropReturn_cons (by decide), dropReturn_cons (by decide), dropReturn_cons (by decide),
    blockLine_star]

/-- A block comment is cut into an empty line, the lines without the carriage returns at their ends,
and another empty line. -/
theorem bodies_blockComment {lines : List String} (h : ∀ line ∈ lines, '\n' ∉ line.toList) :
    bodies (blockComment lines).toList =
      [] :: lines.map (fun line => dropReturn line.toList) ++ [[]] := by
  -- Behind the delimiter the text is made of lines with newlines, the first one empty, and a space.
  let pieces := [] :: lines.map fun line => ' ' :: '*' :: ' ' :: line.toList
  let inner := pieces.flatMap (· ++ ['\n']) ++ [' ']
  have htext : (blockComment lines).toList = ['/', '*'] ++ (inner ++ ['*', '/']) := by
    simp [blockComment, inner, pieces, List.flatMap_map]
  have hline : dropPrefix? ['/', '/'] (blockComment lines).toList = none := by
    simp [htext, dropPrefix?]
  have hblock : dropPrefix? ['/', '*'] (blockComment lines).toList = some (inner ++ ['*', '/']) :=
    dropPrefix?_eq_some_iff.2 htext
  have hend : dropSuffix? ['*', '/'] (inner ++ ['*', '/']) = some inner :=
    dropSuffix?_eq_some_iff.2 rfl
  have hpieces : ∀ piece ∈ pieces, '\n' ∉ piece := by
    simpa [pieces] using h
  have hfirst : blockLine (dropReturn []) = [] := by decide
  have hlast : blockLine [' '] = [] := by decide
  -- The comment is cut into lines; the first and the last hold nothing but their leaders.
  calc
    bodies (blockComment lines).toList
        = (Text.lines inner).map blockLine := by
          simp only [bodies, hline, hblock, hend, Option.getD_some]
    _ = (pieces.map dropReturn ++ [[' ']]).map blockLine := by
          rw [lines_terminated hpieces (by decide) (by decide)]
    _ = [] :: lines.map (fun line => dropReturn line.toList) ++ [[]] := by
          simp only [pieces, List.map_append, List.map_cons, List.map_nil, List.map_map,
            Function.comp_def, blockLine_dropReturn, hfirst, hlast]

/-! ## The annotations -/

def content (a : Annotation) : String × Option String :=
  (a.name, a.value)

def contentOfLine? (line : List Char) : Option (String × Option String) :=
  (readLine line).map fun (name, value?) => (String.ofList name, value?.map String.ofList)

/-- What the annotations of comments say is what the lines of these comments say, one by one. -/
theorem map_content_decodeAll (pkg structName : String) (comments : List String) :
    (decodeAll pkg structName comments).map content =
      (comments.flatMap fun comment => bodies comment.toList).filterMap contentOfLine? := by
  simp only [decodeAll, List.map_flatMap, List.filterMap_flatMap, List.map_filterMap,
    Option.map_map]
  rfl

/-- Lines without newlines give the same annotations, whether they are written as line comments or
as a block comment: those of the lines that are annotations, in order. -/
theorem line_and_block_comments_agree (pkg structName : String) {lines : List String}
    (h : ∀ line ∈ lines, '\n' ∉ line.toList) :
    (decodeAll pkg structName (lines.map lineComment)).map content =
        (decodeAll pkg structName [blockComment lines]).map content ∧
      (decodeAll pkg structName [blockComment lines]).map content =
        lines.filterMap fun line => contentOfLine? line.toList := by
  have hreturn : ∀ line, contentOfLine? (dropReturn line) = contentOfLine? line := by
    intro line
    rw [contentOfLine?, readLine_dropReturn, contentOfLine?]
  have hempty : contentOfLine? [] = none := rfl
  have hline : (decodeAll pkg structName (lines.map lineComment)).map content =
      lines.filterMap fun line => contentOfLine? line.toList := by
    -- Line comments give the lines as they stand.
    have hbodies : (lines.map lineComment).flatMap (fun comment => bodies comment.toList) =
        lines.map String.toList := by
      simp only [List.flatMap_map, bodies_lineComment, ← List.map_eq_flatMap]
    rw [map_content_decodeAll, hbodies, List.filterMap_map]
    rfl
  have hblock : (decodeAll pkg structName [blockComment lines]).map content =
      lines.filterMap fun line => contentOfLine? line.toList := by
    -- The block comment gives the same lines without carriage returns at their ends.
    have hbodies : [blockComment lines].flatMap (fun comment => bodies comment.toList) =
        [] :: lines.map (fun line => dropReturn line.toList) ++ [[]] := by
      simp only [List.flatMap_singleton, bodies_blockComment h]
    have hlines : (lines.map fun line => dropReturn line.toList).filterMap contentOfLine? =
        lines.filterMap fun line => contentOfLine? line.toList := by
      rw [List.filterMap_map]
      exact congrArg (List.filterMap · lines) (funext fun line => hreturn line.toList)
    -- The empty lines of the delimiters hold no annotation.
    simp only [map_content_decodeAll, hbodies, List.filterMap_append, List.filterMap_cons, hempty,
      hlines, List.filterMap_nil, List.append_nil]
  exact ⟨hline.trans hblock.symm, hblock⟩

/-- A carriage return after a value and one in a value that is not closed, a star and indentation
that belong to a line, and an empty line. -/
def returnedLines : List String :=
  ["@Service(\"s\")\r", "* @Starred", "", " @Indented", "@Open(x\r"]

theorem line_and_block_comments_agree_returnedLines :
    (∀ line ∈ returnedLines, '\n' ∉ line.toList) ∧
      (decodeAll "p" "S" (returnedLines.map lineComment)).map content =
        [("Service", some "\"s\""), ("Open", none)] ∧
      (decodeAll "p" "S" [blockComment returnedLines]).map content =
        [("Service", some "\"s\""), ("Open", none)] := by
  have hlines : ∀ line ∈ returnedLines, '\n' ∉ line.toList := by decide
  have hfound : (returnedLines.filterMap fun line => contentOfLine? line.toList) =
      [("Service", some "\"s\""), ("Open", none)] := by decide
  rcases line_and_block_comments_agree "p" "S" hlines with ⟨hsame, hblock⟩
  exact ⟨hlines, hsame.trans (hblock.trans hfound), hblock.trans hfound⟩

end Annotation
end GoSurvey
