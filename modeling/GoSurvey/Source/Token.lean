import GoSurvey.Source.Place
import GoSurvey.Text.CharClass

/-!
# Tokens

A Go source text as a list of tokens, blanks, line ends and comments among them.

* `Token.lexeme c s` — the kind of the token that starts with `c`, and how many of the characters
  `s` after it belong to it;
* `Token.scan` — the tokens of a text;
* `Token.scan_text` — the texts of the tokens, put together again, are the source;
* `Token.scanFrom_start` — each token starts where the tokens before it end.

Each character of an operator is a token of its own, because it depends on the place how a run of
them is divided: `a <-b` sends at the start of a statement and compares between parentheses.
-/

namespace GoSurvey
namespace Source

open Text

inductive TokenKind where
  /-- White space other than a line end. -/
  | blank
  /-- A line end, or a null character, which ends a statement like one. -/
  | newline
  /-- A line comment without its line end, or a block comment. -/
  | comment
  /-- An identifier or keyword. -/
  | word
  /-- A number or a rune. -/
  | literal
  /-- A string, raw or interpreted. -/
  | text
  /-- A bracket or an operator. -/
  | symbol
  /-- A character that no token of the language starts with. -/
  | stray
deriving DecidableEq

/-- A token and the place where it starts. -/
structure Token where
  kind : TokenKind
  text : List Char
  start : Place
deriving DecidableEq

namespace Token

/-! ## Lexemes -/

def startsWord (c : Char) : Bool :=
  c == '_' || isXidStart c

def continuesWord (c : Char) : Bool :=
  c == '_' || isXidContinue c

/-- How many characters a quoted literal takes after its opening quote, the closing one included.
A backslash protects the next character; a line end is not part of the literal. -/
def quotedTail (q : Char) : List Char → Nat
  | [] => 0
  | c :: s =>
      if c = q then 1
      else if c = '\n' then 0
      else if c = '\\' then
        match s with
        | [] => 1
        | _ :: s => quotedTail q s + 2
      else quotedTail q s + 1

def rawTail : List Char → Nat
  | [] => 0
  | c :: s => if c = '\x60' then 1 else rawTail s + 1

/-- How many characters a rune takes after its opening quote. Any character by itself can be quoted,
a line end too. -/
def runeTail : List Char → Nat
  | c :: '\x27' :: s => if c = '\\' ∨ c = '\x27' then quotedTail '\x27' (c :: '\x27' :: s) else 2
  | s => quotedTail '\x27' s

/-- Whether a line comment may go on with the character: up to a line end, or a null character,
which ends a statement like one. -/
def continuesComment (c : Char) : Bool :=
  c != '\n' && c != '\x00'

/-- How many characters a block comment takes after its opening delimiter. What looks like the start
of a comment that nothing closes is a division. -/
def blockTail? : List Char → Option Nat
  | [] => none
  | '*' :: '/' :: _ => some 2
  | _ :: s => (blockTail? s).map (· + 1)

def symbolChars : List Char :=
  ['(', ')', '[', ']', '\x7b', '\x7d', ',', ';', '.', ':', '=', '+', '-', '*', '/', '%', '&', '|',
   '^', '<', '>', '!', '~']

def isSpace (c : Char) : Bool :=
  c == ' ' || ('\t' ≤ c && c ≤ '\r' && c != '\n')

def startsDigit : List Char → Bool
  | [] => false
  | c :: _ => isDigit c

/-- How many characters a number takes after its first, signs of exponents apart. -/
def numberTail (s : List Char) : Nat :=
  (s.takeWhile fun c => continuesWord c || c == '.').length

/-- The kind of the token that starts with `c`, and how many of the characters `s` after it belong
to it. -/
def lexeme (c : Char) (s : List Char) : TokenKind × Nat :=
  if c = '\n' ∨ c = '\x00' then (.newline, 0)
  else if isSpace c then (.blank, (s.takeWhile isSpace).length)
  else if startsWord c then (.word, (s.takeWhile continuesWord).length)
  else if isDigit c ∨ (c = '.' ∧ startsDigit s) then (.literal, numberTail s)
  else
    match c, s with
    | '"', _ => (.text, quotedTail '"' s)
    | '\x60', _ => (.text, rawTail s)
    | '\x27', _ => (.literal, runeTail s)
    | '/', '/' :: _ => (.comment, (s.takeWhile continuesComment).length)
    | '/', '*' :: s =>
        match blockTail? s with
        | some n => (.comment, n + 1)
        | none => (.symbol, 0)
    | _, _ => if symbolChars.contains c then (.symbol, 0) else (.stray, 0)

/-! ## Scanning -/

def scanFrom (p : Place) : List Char → List Token
  | [] => []
  | c :: s =>
      let (kind, size) := lexeme c s
      let text := c :: s.take size
      ⟨kind, text, p⟩ :: scanFrom (p.after text) (s.drop size)
termination_by s => s.length
decreasing_by
  simp only [List.length_cons, List.length_drop]
  omega

def byteOrderMark : Char := '\uFEFF'

/-- The tokens of a source text. A byte order mark at its start is a blank. -/
def scan : List Char → List Token
  | [] => []
  | c :: s =>
      if c = byteOrderMark then
        ⟨.blank, [c], Place.origin⟩ :: scanFrom (Place.origin.next c) s
      else scanFrom Place.origin (c :: s)

/-- No character is lost or doubled. -/
theorem scanFrom_text (p : Place) (s : List Char) : (scanFrom p s).flatMap (·.text) = s := by
  fun_induction scanFrom p s with
  | case1 => rfl
  | case2 p c s kind size found text ih =>
      simp only [List.flatMap_cons, ih, text, List.cons_append, List.take_append_drop]

/-- A scan loses nothing, a byte order mark included. -/
theorem scan_text (s : List Char) : (scan s).flatMap (·.text) = s := by
  cases s with
  | nil => rfl
  | cons c s =>
      simp only [scan]
      split
      · simp [scanFrom_text]
      · exact scanFrom_text _ _

/-- Each token starts at the place that the texts of the tokens before it lead to. -/
theorem scanFrom_start {p : Place} {s : List Char} {before later : List Token} {t : Token}
    (h : scanFrom p s = before ++ t :: later) : t.start = p.after (before.flatMap (·.text)) := by
  induction before generalizing p s with
  | nil =>
      cases s with
      | nil => simp [scanFrom] at h
      | cons c s =>
          rw [scanFrom] at h
          simp only [List.nil_append, List.cons.injEq] at h
          simp [← h.1, Place.after]
  | cons first rest ih =>
      cases s with
      | nil => simp [scanFrom] at h
      | cons c s =>
          rw [scanFrom] at h
          simp only [List.cons_append, List.cons.injEq] at h
          rw [ih h.2, List.flatMap_cons, Place.after_append, ← h.1]

/-! ## Views -/

def stop (t : Token) : Place :=
  t.start.after t.text

def isSymbol (t : Token) (s : String) : Bool :=
  t.kind == .symbol && t.text == s.toList

/-- Whether the token only separates others: a blank, a line end or a comment. -/
def isTrivia (t : Token) : Bool :=
  t.kind == .blank || t.kind == .newline || t.kind == .comment

def opens (t : Token) : Bool :=
  t.isSymbol "(" || t.isSymbol "[" || t.isSymbol "\x7b"

def closes (t : Token) : Bool :=
  t.isSymbol ")" || t.isSymbol "]" || t.isSymbol "\x7d"

end Token
end Source
end GoSurvey
