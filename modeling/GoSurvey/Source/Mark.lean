import GoSurvey.Source.Token
import GoSurvey.Source.Weight

/-!
# Marks

What a reader sees of a stretch of source text: words and symbols, and brackets as a whole. Of what
stands between brackets a mark only keeps how it can be read (`ParenSenses`, `SquareSenses`), each
sense with the weight of its reading.

* `Sign`, `Mark` — what a mark is, and what stands before it;
* `typeWords`, `valueWords` — the words that are no names where a type, or a value, can stand;
* `Mark.ends`, `Mark.continuesAs` — how a line end before a mark counts.

A line end ends a statement or an entry of a list wherever it could end; elsewhere it is a blank.
In the same way a word is a keyword only where the keyword can stand, and a name elsewhere.
-/

namespace GoSurvey
namespace Source

/-! ## Senses of brackets -/

/-- What parentheses can be. A sense is absent if the text cannot be read in this way. -/
structure ParenSenses where
  /-- A value in parentheses. -/
  value : Option Weight
  /-- The operand of a conversion: a value, after which a comma may stand. -/
  operand : Option Weight
  /-- The arguments of a call. -/
  arguments : Option Weight
  /-- The arguments of a call that makes a new value of a type. -/
  creation : Option Weight
  /-- A type in parentheses, where no value can stand. -/
  type : Option Weight
  /-- A type in parentheses, where a value can stand as well. -/
  mixedType : Option Weight
  /-- The parameters of a function. -/
  params : Option Weight
deriving DecidableEq

structure SquareSenses where
  /-- Nothing stands between the brackets. -/
  isEmpty : Bool
  /-- Three dots stand between the brackets. -/
  isDots : Bool
  /-- An index, or the length of an array. -/
  value : Option Weight
  /-- The bounds of a slice. -/
  bounds : Option Weight
  /-- The key type of a map. -/
  type : Option Weight
  /-- A list of types without unions. -/
  plainTypes : Option Weight
  /-- Type arguments, where no value can stand. -/
  types : Option Weight
  /-- Type arguments, where a value can stand as well. -/
  mixedTypes : Option Weight
  /-- The type parameters of a type declaration. -/
  typeParams : Option Weight
deriving DecidableEq

/-! ## Marks -/

inductive Sign where
  | word (text : String)
  /-- A number or a rune. -/
  | literal
  /-- A string. -/
  | text
  /-- One character of an operator, or a bracket without its partner. -/
  | symbol (c : Char)
  | parens (senses : ParenSenses)
  | squares (senses : SquareSenses)
  | braces
  /-- A character that no token of the language starts with. -/
  | stray
deriving DecidableEq

structure Mark where
  sign : Sign
  /-- A line end stands before the sign. -/
  newLine : Bool
  /-- A comment stands before the sign. -/
  commented : Bool
  /-- Nothing at all stands before the sign. -/
  joined : Bool
deriving DecidableEq

/-- The words that start a type and are no names where a type can stand. -/
def typeWords : List String :=
  ["struct", "interface", "map", "chan", "func"]

/-- The words that stand for values and are no names where a value can stand. -/
def valueWords : List String :=
  ["nil", "true", "false", "iota", "new", "make"]

namespace Mark

def isSymbol (m : Mark) (c : Char) : Bool :=
  m.sign == .symbol c

/-- Whether the mark is this symbol and goes on with the one before it. -/
def isJoined (m : Mark) (c : Char) : Bool :=
  m.joined && m.isSymbol c

def isWord (m : Mark) (w : String) : Bool :=
  m.sign == .word w

def word? (m : Mark) : Option String :=
  match m.sign with
  | .word w => some w
  | _ => none

def isBraces (m : Mark) : Bool :=
  m.sign == .braces

/-- Whether a line end before the mark ends what stands before it; `stop` tells that it can end. -/
def breaks (stop : Bool) (m : Mark) : Bool :=
  stop && m.newLine

def ends (m : Mark) : Bool :=
  m.newLine || m.isSymbol ';'

end Mark

namespace Marks

def atEnd : List Mark → Bool
  | [] => true
  | m :: _ => m.ends

def afterDots? : List Mark → Option (List Mark)
  | a :: b :: c :: ms =>
      if a.isSymbol '.' && b.isJoined '.' && c.isJoined '.' then some ms else none
  | _ => none

def splitBy (p : Mark → Bool) (ms : List Mark) : List (List Mark) :=
  ms.foldr
    (fun m parts =>
      if p m then [] :: parts
      else
        match parts with
        | [] => [[m]]
        | part :: parts => (m :: part) :: parts)
    [[]]

/-- The parts of a list with commas; a comma may stand after the last part. -/
def commaParts (ms : List Mark) : List (List Mark) :=
  let parts := splitBy (·.isSymbol ',') ms
  let parts := if parts.getLast? = some [] then parts.dropLast else parts
  if parts = [[]] then [] else parts

end Marks
end Source
end GoSurvey
