import Mathlib.Data.List.TakeWhile
import GoSurvey.Annotation

/-!
# The values of annotations

The value of an annotation is what the first parenthesis of its line encloses. A value is read in one
pass that counts the open parentheses and skips string literals. This file gives the grammar of
values and shows that the pass finds them.

* `Annotation.Quoted`, `Annotation.Balanced` — the grammar;
* `Annotation.enclosed_balanced` — a scan passes over a balanced text;
* `Annotation.enclosed_eq_some_iff` — a scan returns the balanced text before a closing parenthesis;
* `Annotation.Counter`, `Annotation.Counter.scan` — the pass with a counter that nothing keeps from
  falling below zero, and the counts on its way;
* `Annotation.readLine_reads_balanced_value` — what is read from a line.
-/

namespace GoSurvey

open Text

/-! ## Trimmed texts -/

namespace Text

/-- Nothing is left of a text that is made of blanks, and of no other. -/
theorem trim_eq_nil_iff {s : List Char} : trim s = [] ↔ ∀ c ∈ s, isBlank c = true := by
  have hend : trim s = [] ↔ ∀ c ∈ s.dropWhile isBlank, isBlank c = true := by
    simp [trim, trimStart, trimEnd, dropEndWhile]
  rw [hend]
  constructor
  · intro h
    rw [← List.takeWhile_append_dropWhile (p := isBlank) (l := s)]
    -- The blanks at the start and what follows them make up the text.
    intro c hc
    rcases List.mem_append.1 hc with hstart | hrest
    · exact List.mem_takeWhile_imp hstart
    · exact h c hrest
  · intro h c hc
    exact h c ((List.dropWhile_sublist isBlank).subset hc)

/-- `name` is `text` without the blanks at its ends. -/
structure Trimmed (text name : List Char) : Prop where
  between : ∃ left right, text = left ++ name ++ right ∧ ∀ c ∈ left ++ right, isBlank c = true
  first : ∀ c ∈ name.head?, isBlank c = false
  last : ∀ c ∈ name.getLast?, isBlank c = false

/-- Trimming gives the text without the blanks at its ends. -/
theorem trimmed_trim (text : List Char) : Trimmed text (trim text) := by
  rcases exists_dropEndWhile_append isBlank (trimStart text) with ⟨right, hsplit, hright⟩
  have hrest : trim text ++ right = text.dropWhile isBlank := hsplit.symm
  refine ⟨⟨text.takeWhile isBlank, right, ?_, ?_⟩, ?_, ?_⟩
  · rw [List.append_assoc, hrest, List.takeWhile_append_dropWhile]
  -- What is left starts with no blank, as all of them have been dropped there.
  · intro c hc
    rcases List.mem_append.1 hc with hleft | hc
    · exact List.mem_takeWhile_imp hleft
    · exact hright c hc
  · intro c hc
    have hhead : (text.dropWhile isBlank).head? = some c := by
      rw [← hrest, List.head?_append, Option.mem_def.1 hc, Option.some_or]
    simpa [hhead] using List.head?_dropWhile_not isBlank text
  · intro c hc
    have hlast : ((trimStart text).reverse.dropWhile isBlank).head? = some c := by
      simpa [trim, trimEnd, dropEndWhile] using hc
    simpa [hlast] using List.head?_dropWhile_not isBlank (trimStart text).reverse

end Text

namespace Annotation

/-! ## The grammar of values -/

/-- What may stand between double quotes: a backslash protects the character after it. -/
inductive Quoted : List Char → Prop where
  | nil : Quoted []
  | char {c : Char} {s : List Char} (hquote : c ≠ '"') (hslash : c ≠ '\\') (hs : Quoted s) :
      Quoted (c :: s)
  | escape {c : Char} {s : List Char} (hs : Quoted s) : Quoted ('\\' :: c :: s)

/-- A row of characters, string literals and balanced texts between parentheses. Outside of the
literals a character is neither a parenthesis nor a quote. -/
inductive Balanced : List Char → Prop where
  | nil : Balanced []
  | char {c : Char} {s : List Char} (hc : c ∉ ['(', ')', '"', '\x60']) (hs : Balanced s) :
      Balanced (c :: s)
  | quoted {q s : List Char} (hq : Quoted q) (hs : Balanced s) : Balanced ('"' :: (q ++ '"' :: s))
  | raw {q s : List Char} (hq : '\x60' ∉ q) (hs : Balanced s) :
      Balanced ('\x60' :: (q ++ '\x60' :: s))
  | parens {v s : List Char} (hv : Balanced v) (hs : Balanced s) :
      Balanced ('(' :: (v ++ ')' :: s))

/-! ## One character of a scan -/

section Scan

variable {depth : Nat} {mode : Mode} {c : Char} {s v : List Char}

/-- The parenthesis that closes the outermost pair ends the value. -/
@[simp] theorem enclosed_close_zero : enclosed 0 .plain (')' :: s) = some [] := by
  simp [enclosed]

/-- A parenthesis that closes an inner pair belongs to the value. -/
@[simp] theorem enclosed_close_succ :
    enclosed (depth + 1) .plain (')' :: s) = (enclosed depth .plain s).map (')' :: ·) := by
  simp [enclosed]

/-- A parenthesis that opens belongs to the value, and one more is to be closed. -/
@[simp] theorem enclosed_open :
    enclosed depth .plain ('(' :: s) = (enclosed (depth + 1) .plain s).map ('(' :: ·) := by
  simp [enclosed]

/-- Any other character, and any character in a literal, belongs to the value and decides only how
the next one is read. -/
theorem enclosed_cons (hclose : ¬ (mode = .plain ∧ c = ')')) (hopen : ¬ (mode = .plain ∧ c = '(')) :
    enclosed depth mode (c :: s) = (enclosed depth (mode.next c) s).map (c :: ·) := by
  simp [enclosed.eq_def depth mode (c :: s), hclose, hopen]

/-- What a scan can meet: a parenthesis outside of the literals, or anything else. -/
theorem paren_cases (mode : Mode) (c : Char) :
    (mode = .plain ∧ c = ')') ∨ (mode = .plain ∧ c = '(') ∨
      (¬ (mode = .plain ∧ c = ')') ∧ ¬ (mode = .plain ∧ c = '(')) := by
  by_cases hclose : mode = .plain ∧ c = ')'
  · exact Or.inl hclose
  · by_cases hopen : mode = .plain ∧ c = '('
    · exact Or.inr (Or.inl hopen)
    · exact Or.inr (Or.inr ⟨hclose, hopen⟩)

/-! ## Balanced texts are passed over -/

/-- The rest of a quoted literal is passed over, whatever parentheses it holds. -/
theorem enclosed_quoted {q : List Char} (hq : Quoted q) :
    enclosed depth .quoted (q ++ '"' :: s) = (enclosed depth .plain s).map (q ++ '"' :: ·) := by
  induction hq with
  | nil => simp [enclosed_cons, Mode.next]
  | char hquote hslash _ ih =>
      simp [enclosed_cons, Mode.next, hquote, hslash, ih, Function.comp_def]
  | escape _ ih => simp [enclosed_cons, Mode.next, ih, Function.comp_def]

/-- The rest of a raw literal is passed over, whatever parentheses it holds. -/
theorem enclosed_raw {q : List Char} (hq : '\x60' ∉ q) :
    enclosed depth .raw (q ++ '\x60' :: s) = (enclosed depth .plain s).map (q ++ '\x60' :: ·) := by
  induction q with
  | nil => simp [enclosed_cons, Mode.next]
  | cons c q ih =>
      rw [List.mem_cons, not_or] at hq
      simp [enclosed_cons, Mode.next, Ne.symm hq.1, ih hq.2, Function.comp_def]

/-- A balanced text closes no parenthesis but those that it opens. -/
theorem enclosed_balanced (hv : Balanced v) :
    enclosed depth .plain (v ++ s) = (enclosed depth .plain s).map (v ++ ·) := by
  induction hv generalizing depth s with
  | nil => simp
  | char hc _ ih =>
      simp only [List.mem_cons, List.not_mem_nil, or_false, not_or] at hc
      simp [enclosed_cons, Mode.next, hc, ih, Function.comp_def]
  | quoted hq _ ih =>
      simp [enclosed_cons, Mode.next, enclosed_quoted hq, ih, Function.comp_def]
  | raw hq _ ih =>
      simp [enclosed_cons, Mode.next, enclosed_raw hq, ih, Function.comp_def]
  | parens _ _ ihv ihs =>
      simp [ihv, ihs, Function.comp_def]

/-! ## What a scan returns -/

/-- A text that closes `depth` parentheses: balanced texts with a closing parenthesis after each but
the last. -/
inductive Closes : Nat → List Char → Prop where
  | last {v : List Char} (hv : Balanced v) : Closes 0 v
  | close {depth : Nat} {v w : List Char} (hv : Balanced v) (hw : Closes depth w) :
      Closes (depth + 1) (v ++ ')' :: w)

/-- Something that may be put before balanced texts may be put before these. -/
theorem Closes.append {x w : List Char} (hx : ∀ s, Balanced s → Balanced (x ++ s))
    (hw : Closes depth w) : Closes depth (x ++ w) := by
  cases hw with
  | last hv => exact Closes.last (hx _ hv)
  | close hv hw => simpa using Closes.close (hx _ hv) hw

/-- `v` is what a scan that stands in `mode` returns, and `w` the part of it after the literal
that the scan stands in. -/
def Resumes : Mode → List Char → List Char → Prop
  | .plain, v, w => v = w
  | .quoted, v, w => ∃ q, Quoted q ∧ v = q ++ '"' :: w
  | .escaped, v, w => ∃ c q, Quoted q ∧ v = c :: (q ++ '"' :: w)
  | .raw, v, w => ∃ q, '\x60' ∉ q ∧ v = q ++ '\x60' :: w

/-- A character inside a literal goes to the part of the literal that is left. -/
theorem Resumes.cons {w : List Char} (hmode : mode ≠ .plain) (h : Resumes (mode.next c) v w) :
    Resumes mode (c :: v) w := by
  cases mode with
  | plain => exact absurd rfl hmode
  | quoted =>
      -- In a quoted literal the character protects the next one, ends the literal, or is one of it.
      by_cases hslash : c = '\\'
      · obtain ⟨d, q, hq, rfl⟩ : ∃ d q, Quoted q ∧ v = d :: (q ++ '"' :: w) := by
          simpa [Mode.next, hslash, Resumes] using h
        exact ⟨'\\' :: d :: q, Quoted.escape hq, by simp [hslash]⟩
      · by_cases hquote : c = '"'
        · obtain rfl : v = w := by simpa [Mode.next, hquote, Resumes] using h
          exact ⟨[], Quoted.nil, by simp [hquote]⟩
        · obtain ⟨q, hq, rfl⟩ : ∃ q, Quoted q ∧ v = q ++ '"' :: w := by
            simpa [Mode.next, hslash, hquote, Resumes] using h
          exact ⟨c :: q, Quoted.char hquote hslash hq, rfl⟩
  | escaped =>
      rcases h with ⟨q, hq, rfl⟩
      exact ⟨c, q, hq, rfl⟩
  | raw =>
      -- In a raw literal nothing is protected.
      by_cases hquote : c = '\x60'
      · obtain rfl : v = w := by simpa [Mode.next, hquote, Resumes] using h
        exact ⟨[], by simp, by simp [hquote]⟩
      · obtain ⟨q, hq, rfl⟩ : ∃ q, '\x60' ∉ q ∧ v = q ++ '\x60' :: w := by
          simpa [Mode.next, hquote, Resumes] using h
        exact ⟨c :: q, by simp [hq, Ne.symm hquote], rfl⟩

/-- A character outside of the literals starts one, or stands for itself. -/
theorem Closes.cons {w : List Char} (hclose : c ≠ ')') (hopen : c ≠ '(')
    (h : Resumes (Mode.plain.next c) v w) (hw : Closes depth w) : Closes depth (c :: v) := by
  by_cases hquote : c = '"'
  · obtain ⟨q, hq, rfl⟩ : ∃ q, Quoted q ∧ v = q ++ '"' :: w := by
      simpa [Mode.next, hquote, Resumes] using h
    -- A whole literal goes to the balanced text that follows it.
    have hput : ∀ s, Balanced s → Balanced ('"' :: (q ++ ['"']) ++ s) := by
      intro s hs
      simpa using Balanced.quoted hq hs
    simpa [hquote] using hw.append hput
  · by_cases hback : c = '\x60'
    · obtain ⟨q, hq, rfl⟩ : ∃ q, '\x60' ∉ q ∧ v = q ++ '\x60' :: w := by
        simpa [Mode.next, hback, Resumes] using h
      have hput : ∀ s, Balanced s → Balanced ('\x60' :: (q ++ ['\x60']) ++ s) := by
        intro s hs
        simpa using Balanced.raw hq hs
      simpa [hback] using hw.append hput
    · obtain rfl : v = w := by simpa [Mode.next, hquote, hback, Resumes] using h
      have hplain : c ∉ ['(', ')', '"', '\x60'] := by simp [hclose, hopen, hquote, hback]
      exact hw.append (x := [c]) fun s hs => Balanced.char hplain hs

/-- A text that closes one parenthesis more closes it after a balanced text. -/
theorem Closes.open (h : Closes (depth + 1) v) : Closes depth ('(' :: v) := by
  cases h with
  | close hv hw =>
      rename_i u w
      have hput : ∀ s, Balanced s → Balanced ('(' :: (u ++ [')']) ++ s) := by
        intro s hs
        simpa using Balanced.parens hv hs
      simpa using hw.append hput

/-- What a scan returns ends where the last parenthesis is closed, and it closes all of the others. -/
theorem closes_of_enclosed_eq_some (h : enclosed depth mode s = some v) :
    ∃ w post, Resumes mode v w ∧ Closes depth w ∧ s = v ++ ')' :: post := by
  induction s generalizing depth mode v with
  | nil => simp [enclosed] at h
  | cons c s ih =>
      rcases paren_cases mode c with ⟨rfl, rfl⟩ | ⟨rfl, rfl⟩ | ⟨hclose, hopen⟩
      -- A closing parenthesis ends the value at depth zero, and closes an inner pair at any other.
      · cases depth with
        | zero =>
            obtain rfl : [] = v := by simpa using h
            exact ⟨[], s, rfl, Closes.last Balanced.nil, rfl⟩
        | succ depth =>
            obtain ⟨u, hu, rfl⟩ := by simpa using h
            rcases ih hu with ⟨w, post, rfl, hw, rfl⟩
            exact ⟨')' :: u, post, rfl, Closes.close Balanced.nil hw, rfl⟩
      · obtain ⟨u, hu, rfl⟩ := by simpa using h
        rcases ih hu with ⟨w, post, rfl, hw, rfl⟩
        exact ⟨'(' :: u, post, rfl, hw.open, rfl⟩
      · rw [enclosed_cons hclose hopen] at h
        rcases Option.map_eq_some_iff.1 h with ⟨u, hu, rfl⟩
        rcases ih hu with ⟨w, post, hresumes, hw, rfl⟩
        -- Inside a literal the same rest follows; outside, the character goes to the rest.
        by_cases hmode : mode = .plain
        · subst hmode
          have hrest : Closes depth (c :: u) :=
            Closes.cons (fun hc => hclose ⟨rfl, hc⟩) (fun hc => hopen ⟨rfl, hc⟩) hresumes hw
          exact ⟨c :: u, post, rfl, hrest, rfl⟩
        · exact ⟨w, post, hresumes.cons hmode, hw, rfl⟩

theorem enclosed_eq_some_iff :
    enclosed 0 .plain s = some v ↔ Balanced v ∧ ∃ post, s = v ++ ')' :: post := by
  constructor
  · intro h
    rcases closes_of_enclosed_eq_some h with ⟨w, post, rfl, hw, rfl⟩
    cases hw with
    | last hv => exact ⟨hv, post, rfl⟩
  · rintro ⟨hv, post, rfl⟩
    simp [enclosed_balanced hv]

end Scan

/-! ## Counting -/

/-- Where a scan stands that counts the open parentheses, the first one included. -/
structure Counter where
  depth : Int
  mode : Mode
deriving DecidableEq

namespace Counter

def start : Counter :=
  ⟨0, .plain⟩

/-- The counter after `c`. The count goes down with every closing parenthesis, whatever it is. -/
def next (k : Counter) (c : Char) : Counter :=
  if k.mode = .plain ∧ c = '(' then ⟨k.depth + 1, .plain⟩
  else if k.mode = .plain ∧ c = ')' then ⟨k.depth - 1, .plain⟩
  else ⟨k.depth, k.mode.next c⟩

/-- Whether the scan ends at `c`: a parenthesis that leaves none open. -/
def Ends (k : Counter) (c : Char) : Prop :=
  k.mode = .plain ∧ c = ')' ∧ (k.next c).depth = 0

instance (k : Counter) (c : Char) : Decidable (k.Ends c) :=
  inferInstanceAs (Decidable (_ ∧ _ ∧ _))

/-- All counters of a scan in order, the last one included, and the text before the parenthesis at
which it ends. -/
def scan (k : Counter) : List Char → List Counter × Option (List Char)
  | [] => ([k], none)
  | c :: s =>
      if k.Ends c then ([k, k.next c], some [])
      else
        let (counters, text?) := scan (k.next c) s
        (k :: counters, text?.map (c :: ·))

section

variable {depth : Int} {mode : Mode} {c : Char}

theorem next_open : (⟨depth, .plain⟩ : Counter).next '(' = ⟨depth + 1, .plain⟩ := by
  simp [next]

theorem next_close : (⟨depth, .plain⟩ : Counter).next ')' = ⟨depth - 1, .plain⟩ := by
  simp [next]

/-- Only parentheses outside of literals are counted. -/
theorem next_of_not_paren (hclose : ¬ (mode = .plain ∧ c = ')'))
    (hopen : ¬ (mode = .plain ∧ c = '(')) :
    (⟨depth, mode⟩ : Counter).next c = ⟨depth, mode.next c⟩ := by
  simp [next, hclose, hopen]

end

/-- A scan returns `text?`, and no count on its way is below zero. -/
def Agrees (k : Counter) (s : List Char) (text? : Option (List Char)) : Prop :=
  (k.scan s).2 = text? ∧ ∀ k' ∈ (k.scan s).1, 0 ≤ k'.depth

section

variable {k : Counter} {c : Char} {s : List Char} {text? : Option (List Char)}

theorem agrees_nil (hk : 0 ≤ k.depth) : k.Agrees [] none := by
  simpa [Agrees, scan] using hk

theorem agrees_of_ends (hends : k.Ends c) (hk : 0 ≤ k.depth) : k.Agrees (c :: s) (some []) := by
  have hscan : k.scan (c :: s) = ([k, k.next c], some []) := by simp [scan, hends]
  have hnext : 0 ≤ (k.next c).depth := Int.le_of_eq hends.2.2.symm
  refine ⟨by rw [hscan], ?_⟩
  rw [hscan]
  simp [hk, hnext]

/-- A step that does not end the scan puts its character before what the rest of the scan finds. -/
theorem Agrees.cons (hends : ¬ k.Ends c) (hk : 0 ≤ k.depth) (h : (k.next c).Agrees s text?) :
    k.Agrees (c :: s) (text?.map (c :: ·)) := by
  have hscan : k.scan (c :: s) =
      (k :: ((k.next c).scan s).1, ((k.next c).scan s).2.map (c :: ·)) := by simp [scan, hends]
  refine ⟨by rw [hscan, h.1], ?_⟩
  rw [hscan]
  exact List.forall_mem_cons.2 ⟨hk, h.2⟩

end

/-- Behind the first parenthesis the count is one more than the number of those that are open inside
of it. So it comes down to zero at the end only, and never below. -/
theorem agrees_enclosed (depth : Nat) (mode : Mode) (s : List Char) :
    (⟨depth + 1, mode⟩ : Counter).Agrees s (enclosed depth mode s) := by
  induction s generalizing depth mode with
  | nil =>
      have hk : (0 : Int) ≤ depth + 1 := by omega
      exact agrees_nil hk
  | cons c s ih =>
      have hk : (0 : Int) ≤ depth + 1 := by omega
      rcases paren_cases mode c with ⟨rfl, rfl⟩ | ⟨rfl, rfl⟩ | ⟨hclose, hopen⟩
      · cases depth with
        | zero =>
            rw [enclosed_close_zero]
            exact agrees_of_ends (by simp [Ends, next_close]) hk
        | succ depth =>
            -- At least two are open, so that the count stays above zero.
            have hends : ¬ (⟨(depth + 1 : Nat) + 1, .plain⟩ : Counter).Ends ')' := by
              simp only [Ends, next_close]
              omega
            have hnext : (⟨(depth + 1 : Nat) + 1, .plain⟩ : Counter).next ')' =
                ⟨depth + 1, .plain⟩ := by simp [next_close]
            rw [enclosed_close_succ]
            exact Agrees.cons hends hk (hnext ▸ ih depth .plain)
      · have hends : ¬ (⟨depth + 1, .plain⟩ : Counter).Ends '(' := by simp [Ends]
        have hnext : (⟨depth + 1, .plain⟩ : Counter).next '(' =
            ⟨(depth + 1 : Nat) + 1, .plain⟩ := by simp [next_open]
        rw [enclosed_open]
        exact Agrees.cons hends hk (hnext ▸ ih (depth + 1) .plain)
      -- Neither kind of parenthesis: the count stays as it is.
      · have hends : ¬ (⟨depth + 1, mode⟩ : Counter).Ends c := fun h => hclose ⟨h.1, h.2.1⟩
        rw [enclosed_cons hclose hopen]
        exact Agrees.cons hends hk (next_of_not_paren hclose hopen ▸ ih depth (mode.next c))

end Counter

/-! ## Lines -/

/-- `text` is what stands between the sign that starts an annotation and the first parenthesis, or
the end of the line. -/
def IsHead (line text : List Char) : Prop :=
  '(' ∉ text ∧ (line = '@' :: text ∨ ∃ rest, line = '@' :: (text ++ '(' :: rest))

/-- `value` is a balanced text that the first parenthesis of a line encloses. -/
def IsValue (line value : List Char) : Prop :=
  ∃ pre post, line = pre ++ '(' :: (value ++ ')' :: post) ∧ '(' ∉ pre ∧ Balanced value

section FirstParenthesis

variable {s pre : List Char}

theorem takeWhile_of_no_paren (hs : '(' ∉ s) : s.takeWhile (· ≠ '(') = s := by
  rw [List.takeWhile_eq_self_iff]
  intro c hc
  simpa using fun hsame : c = '(' => hs (hsame ▸ hc)

/-- What stands before the first parenthesis is the head of a line. -/
theorem takeWhile_append_paren (hpre : '(' ∉ pre) (rest : List Char) :
    (pre ++ '(' :: rest).takeWhile (· ≠ '(') = pre := by
  rw [List.takeWhile_append, takeWhile_of_no_paren hpre]
  simp

theorem dropWhile_of_no_paren (hs : '(' ∉ s) : s.dropWhile (· ≠ '(') = [] := by
  have hsplit := List.takeWhile_append_dropWhile (p := (· ≠ '(')) (l := s)
  rw [takeWhile_of_no_paren hs] at hsplit
  exact List.append_right_eq_self.1 hsplit

theorem dropWhile_append_paren (hpre : '(' ∉ pre) (rest : List Char) :
    (pre ++ '(' :: rest).dropWhile (· ≠ '(') = '(' :: rest := by
  have hsplit := List.takeWhile_append_dropWhile (p := (· ≠ '(')) (l := pre ++ '(' :: rest)
  rw [takeWhile_append_paren hpre] at hsplit
  exact List.append_cancel_left hsplit

theorem readValue_of_no_paren (hs : '(' ∉ s) : readValue s = none := by
  rw [readValue, dropWhile_of_no_paren hs]

/-- A value is looked for behind the first parenthesis. -/
theorem readValue_append_paren (hpre : '(' ∉ pre) (rest : List Char) :
    readValue (pre ++ '(' :: rest) = enclosed 0 .plain rest := by
  rw [readValue, dropWhile_append_paren hpre]

/-- The head of a line is what stands between the sign and the first parenthesis. -/
theorem isHead_cons_iff {text : List Char} :
    IsHead ('@' :: s) text ↔ text = s.takeWhile (· ≠ '(') := by
  constructor
  · rintro ⟨htext, hline | ⟨rest, hline⟩⟩
    · obtain rfl : s = text := by simpa using hline
      exact (takeWhile_of_no_paren htext).symm
    · obtain rfl : s = text ++ '(' :: rest := by simpa using hline
      exact (takeWhile_append_paren htext rest).symm
  · rintro rfl
    by_cases hparen : '(' ∈ s
    · rcases List.eq_append_cons_of_mem hparen with ⟨pre, rest, rfl, hpre⟩
      rw [takeWhile_append_paren hpre]
      exact ⟨hpre, Or.inr ⟨rest, rfl⟩⟩
    · rw [takeWhile_of_no_paren hparen]
      exact ⟨hparen, Or.inl rfl⟩

theorem IsHead.exists_cons {line text : List Char} (h : IsHead line text) :
    ∃ s, line = '@' :: s := by
  rcases h with ⟨-, hline | ⟨rest, hline⟩⟩
  · exact ⟨_, hline⟩
  · exact ⟨_, hline⟩

/-- A line has one head at most. -/
theorem IsHead.unique {line text text' : List Char} (h : IsHead line text)
    (h' : IsHead line text') : text = text' := by
  rcases h.exists_cons with ⟨s, rfl⟩
  exact (isHead_cons_iff.1 h).trans (isHead_cons_iff.1 h').symm

end FirstParenthesis

/-- The value that is read is the balanced text that the first parenthesis encloses. -/
theorem readValue_eq_some_iff {line value : List Char} :
    readValue line = some value ↔ IsValue line value := by
  constructor
  · intro h
    by_cases hparen : '(' ∈ line
    · rcases List.eq_append_cons_of_mem hparen with ⟨pre, rest, rfl, hpre⟩
      rw [readValue_append_paren hpre, enclosed_eq_some_iff] at h
      rcases h with ⟨hvalue, post, rfl⟩
      exact ⟨pre, post, rfl, hpre, hvalue⟩
    · simp [readValue_of_no_paren hparen] at h
  · rintro ⟨pre, post, rfl, hpre, hvalue⟩
    rw [readValue_append_paren hpre]
    exact enclosed_eq_some_iff.2 ⟨hvalue, post, rfl⟩

/-- A line is an annotation if not only blanks stand before its first parenthesis. -/
theorem readLine_eq_some_iff {line name : List Char} {value? : Option (List Char)} :
    readLine line = some (name, value?) ↔
      ∃ text, IsHead line text ∧ (∃ c ∈ text, isBlank c = false) ∧ name = trim text ∧
        value? = readValue line := by
  by_cases hsign : ∃ s, line = '@' :: s
  · rcases hsign with ⟨s, rfl⟩
    have hvalue : readValue ('@' :: s) = readValue s := by simp [readValue]
    simp only [isHead_cons_iff, exists_eq_left, hvalue, readLine]
    generalize s.takeWhile (· ≠ '(') = text
    -- The name is refused exactly if nothing but blanks stands before the parenthesis.
    have hname : (trim text).isEmpty = false ↔ ∃ c ∈ text, isBlank c = false := by
      rw [List.isEmpty_eq_false_iff, Ne, trim_eq_nil_iff]
      simp
    rw [← hname]
    split
    next hempty => simp [hempty]
    next hempty => simp [hempty, @eq_comm _ name, @eq_comm _ value?]
  -- Without the sign there is neither an annotation nor a head.
  · have hnone : readLine line = none := by
      unfold readLine
      split
      next s => exact absurd ⟨s, rfl⟩ hsign
      next => rfl
    rw [hnone]
    constructor
    · simp
    · rintro ⟨text, hhead, -⟩
      exact absurd hhead.exists_cons hsign

/-- The counting scan from the first parenthesis on finds the value, and its count never falls below
zero. -/
theorem agrees_readValue (line : List Char) :
    Counter.start.Agrees (line.dropWhile (· ≠ '(')) ((readValue line).map ('(' :: ·)) := by
  by_cases hparen : '(' ∈ line
  · rcases List.eq_append_cons_of_mem hparen with ⟨pre, rest, rfl, hpre⟩
    rw [dropWhile_append_paren hpre, readValue_append_paren hpre]
    have hends : ¬ Counter.start.Ends '(' := by simp [Counter.Ends]
    exact Counter.Agrees.cons hends (Int.le_refl 0) (Counter.agrees_enclosed 0 .plain rest)
  · rw [dropWhile_of_no_paren hparen, readValue_of_no_paren hparen]
    exact Counter.agrees_nil (Int.le_refl 0)

/-- A line is an annotation exactly if it starts with the sign and not only blanks stand between the
sign and the first parenthesis; that text without the blanks at its ends is the name. The value is
the balanced text that the first parenthesis encloses: there is at most one, and without one there is
no value. The count of open parentheses never falls below zero while it is looked for. -/
theorem readLine_reads_balanced_value (line : List Char) :
    ((∃ a, readLine line = some a) ↔
      ∃ text, IsHead line text ∧ ∃ c ∈ text, isBlank c = false) ∧
    (∀ name value?, readLine line = some (name, value?) →
      (∀ text, IsHead line text → Trimmed text name) ∧
      (∀ value, value? = some value ↔ IsValue line value) ∧
      (value? = none ↔ ∀ value, ¬ IsValue line value)) ∧
    (∀ value value', IsValue line value → IsValue line value' → value = value') ∧
    Counter.start.Agrees (line.dropWhile (· ≠ '(')) ((readValue line).map ('(' :: ·)) := by
  refine ⟨?_, ?_, ?_, agrees_readValue line⟩
  · constructor
    · rintro ⟨⟨name, value?⟩, h⟩
      rcases readLine_eq_some_iff.1 h with ⟨text, hhead, hname, -⟩
      exact ⟨text, hhead, hname⟩
    · rintro ⟨text, hhead, hname⟩
      exact ⟨_, readLine_eq_some_iff.2 ⟨text, hhead, hname, rfl, rfl⟩⟩
  · intro name value? h
    rcases readLine_eq_some_iff.1 h with ⟨text, hhead, -, rfl, rfl⟩
    refine ⟨?_, fun value => readValue_eq_some_iff, ?_⟩
    · intro text' hhead'
      rw [hhead.unique hhead']
      exact trimmed_trim text'
    · simp only [Option.eq_none_iff_forall_ne_some, Ne, readValue_eq_some_iff]
  · intro value value' h h'
    have hsame : some value = some value' :=
      (readValue_eq_some_iff.2 h).symm.trans (readValue_eq_some_iff.2 h')
    exact Option.some.inj hsame

-- Neither the parenthesis in the literal nor the inner pair ends the value.
example : readLine "@Route(when(a), \")\") more".toList =
    some ("Route".toList, some "when(a), \")\"".toList) := by decide

end Annotation
end GoSurvey
