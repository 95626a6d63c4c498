import GoSurvey.Json
import GoSurvey.Text.Cut

/-!
# Reading JSON

A text is cut into tokens first, and a stack machine puts the tokens together.

* `Json.tokens?` — the tokens of a text, blanks left out;
* `Json.Machine.step` — what one token does to the machine;
* `Json.parse?` — the document that a text is.
-/

namespace GoSurvey
namespace Json

open Text

inductive Token where
  | openArr
  | closeArr
  | openObj
  | closeObj
  | colon
  | comma
  | str (text : Option String)
  /-- A number, a truth value or null. -/
  | scalar (value : Json)

/-! ## Strings -/

def simpleEscape? (c : Char) : Option Char :=
  match c with
  | '"' => some '"'
  | '\\' => some '\\'
  | '/' => some '/'
  | 'b' => some '\x08'
  | 'f' => some '\x0c'
  | 'n' => some '\n'
  | 'r' => some '\r'
  | 't' => some '\t'
  | _ => none

def hex4? (a b c d : Char) : Option Nat := do
  let a ← digitValue? 16 a
  let b ← digitValue? 16 b
  let c ← digitValue? 16 c
  let d ← digitValue? 16 d
  some (((a * 16 + b) * 16 + c) * 16 + d)

/-- The code units of a string after its opening quote, and how many characters it takes, the
closing quote included. A character outside the escapes is one unit, whatever its size. -/
def readString : List Char → Option (List Nat × Nat)
  | [] => none
  | '\\' :: 'u' :: a :: b :: c :: d :: s =>
      match hex4? a b c d, readString s with
      | some u, some (units, n) => some (u :: units, n + 6)
      | _, _ => none
  | '\\' :: e :: s =>
      match simpleEscape? e, readString s with
      | some c, some (units, n) => some (c.toNat :: units, n + 2)
      | _, _ => none
  | c :: s =>
      if c = '"' then some ([], 1)
      else if c < ' ' ∨ c = '\\' then none
      else (readString s).map fun (units, n) => (c.toNat :: units, n + 1)

def isHighHalf (u : Nat) : Bool :=
  0xD800 ≤ u && u < 0xDC00

def isLowHalf (u : Nat) : Bool :=
  0xDC00 ≤ u && u < 0xE000

/-- The text of a list of code units, in which the halves of surrogate pairs belong together. -/
def combine? : List Nat → Option (List Char)
  | [] => some []
  | [u] => if isHighHalf u || isLowHalf u then none else some [Char.ofNat u]
  | u :: v :: rest =>
      -- A half on its own is no character, whichever it is.
      if isHighHalf u then
        if isLowHalf v then
          (combine? rest).map (Char.ofNat (0x10000 + (u - 0xD800) * 0x400 + (v - 0xDC00)) :: ·)
        else none
      else if isLowHalf u then none
      else (combine? (v :: rest)).map (Char.ofNat u :: ·)

/-! ## Numbers -/

def digitRun (s : List Char) : Nat :=
  (s.takeWhile isDigit).length

/-- The extent of the digits before the point: no zero stands before another digit. -/
def wholeExtent? : List Char → Option Nat
  | '0' :: _ => some 1
  | s => if digitRun s = 0 then none else some (digitRun s)

def fractionExtent? : List Char → Option Nat
  | '.' :: s => if digitRun s = 0 then none else some (digitRun s + 1)
  | _ => some 0

/-- The extent of a sign that may stand before the digits of an exponent. -/
def signExtent : List Char → Nat
  | '+' :: _ | '-' :: _ => 1
  | _ => 0

def exponentExtent? : List Char → Option Nat
  | c :: s =>
      if c = 'e' ∨ c = 'E' then
        let sign := signExtent s
        let digits := digitRun (s.drop sign)
        if digits = 0 then none else some (1 + sign + digits)
      else some 0
  | [] => some 0

def numberExtent? (s : List Char) : Option Nat := do
  let minus := if s.head? = some '-' then 1 else 0
  let whole ← wholeExtent? (s.drop minus)
  let fraction ← fractionExtent? (s.drop (minus + whole))
  let exponent ← exponentExtent? (s.drop (minus + whole + fraction))
  some (minus + whole + fraction + exponent)

def natOfDigits (s : List Char) : Nat :=
  s.foldl (fun n c => n * 10 + (c.toNat - '0'.toNat)) 0

def ofLiteral (literal : List Char) : Json :=
  if literal.all isDigit then nat (natOfDigits literal) else number (String.ofList literal)

/-! ## Tokens -/

def isSpace (c : Char) : Bool :=
  c == ' ' || c == '\n' || c == '\r' || c == '\t'

def readWord? (s : List Char) : Option (Json × Nat) :=
  if (dropPrefix? ['t', 'r', 'u', 'e'] s).isSome then some (bool true, 4)
  else if (dropPrefix? ['f', 'a', 'l', 's', 'e'] s).isSome then some (bool false, 5)
  else if (dropPrefix? ['n', 'u', 'l', 'l'] s).isSome then some (null, 4)
  else none

/-- The token that starts with `c`, and how many of the characters `s` after it belong to it. -/
def lexeme? (c : Char) (s : List Char) : Option (Token × Nat) :=
  match c with
  | '[' => some (.openArr, 0)
  | ']' => some (.closeArr, 0)
  | '\x7b' => some (.openObj, 0)
  | '\x7d' => some (.closeObj, 0)
  | ':' => some (.colon, 0)
  | ',' => some (.comma, 0)
  -- A string with a lone half is a token still, but one without a text.
  | '"' => (readString s).map fun (units, n) => (.str ((combine? units).map String.ofList), n)
  | _ =>
      if isDigit c || c == '-' then
        (numberExtent? (c :: s)).map fun n => (.scalar (ofLiteral ((c :: s).take n)), n - 1)
      else (readWord? (c :: s)).map fun (value, n) => (.scalar value, n - 1)

def tokens? : List Char → Option (List Token)
  | [] => some []
  | c :: s =>
      if isSpace c then tokens? s
      else
        match lexeme? c s with
        | none => none
        | some (t, n) => (tokens? (s.drop n)).map (t :: ·)
termination_by s => s.length
decreasing_by
  all_goals
    simp only [List.length_cons, List.length_drop]
    omega

/-! ## The machine -/

/-- An array or object that is not closed yet, with what it has so far, the last first. -/
inductive Frame where
  | array (done : List Json)
  | object (done : List (Option String × Json)) (key : Option String)

inductive Machine where
  /-- A value. -/
  | value (stack : List Frame)
  /-- The first element of an array, or its end. -/
  | arrayStart (stack : List Frame)
  /-- The first key of an object, or its end. -/
  | objectStart (stack : List Frame)
  /-- A further key of an object. -/
  | key (done : List (Option String × Json)) (stack : List Frame)
  /-- The colon after a key. -/
  | colon (key : Option String) (done : List (Option String × Json)) (stack : List Frame)
  /-- What comes after a value: a comma, a closing bracket, or the end of the text. -/
  | after (value : Json) (stack : List Frame)

namespace Machine

def begin? (stack : List Frame) : Token → Option Machine
  | .scalar v => some (.after v stack)
  | .str s => some (.after (.str s) stack)
  | .openArr => some (.arrayStart stack)
  | .openObj => some (.objectStart stack)
  | _ => none

def step : Machine → Token → Option Machine
  | .value stack, t => begin? stack t
  | .arrayStart stack, .closeArr => some (.after (.arr []) stack)
  | .arrayStart stack, t => begin? (.array [] :: stack) t
  | .objectStart stack, .closeObj => some (.after (.obj []) stack)
  | .objectStart stack, .str k => some (.colon k [] stack)
  | .key done stack, .str k => some (.colon k done stack)
  | .colon k done stack, .colon => some (.value (.object done k :: stack))
  | .after v (.array done :: stack), .comma => some (.value (.array (v :: done) :: stack))
  | .after v (.array done :: stack), .closeArr => some (.after (.arr (v :: done).reverse) stack)
  | .after v (.object done k :: stack), .comma => some (.key ((k, v) :: done) stack)
  | .after v (.object done k :: stack), .closeObj =>
      some (.after (.obj ((k, v) :: done).reverse) stack)
  | _, _ => none

def run : Machine → List Token → Option Machine
  | m, [] => some m
  | m, t :: ts => (m.step t).bind (run · ts)

def result? : Machine → Option Json
  | .after v [] => some v
  | _ => none

end Machine

def parse? (s : String) : Option Json := do
  let tokens ← tokens? s.toList
  let machine ← (Machine.value []).run tokens
  machine.result?

end Json
end GoSurvey
