import GoSurvey.Source.TypeReading

/-!
# Reading values

The length of an array is a value, and what can be a value decides how brackets after a name are to
be read. A value is a row of operands with operators between them. How tightly an operator binds
changes nothing about what can be a value, nor about its weight.

* `Operand` — what an operand that has been read so far can be;
* `Operand.extend` — selectors, indices, calls and literals after an operand;
* `Value.weight` — the weight of marks that are one value together.

A single name is both a value and a type until something follows that only one of them can have,
and so is a name with type arguments.
-/

namespace GoSurvey
namespace Source

/-! ## Operands -/

/-- What an operand that has been read so far can be. -/
structure Operand where
  /-- It is a single name. -/
  isName : Bool
  /-- It is a value. -/
  value : Option Weight
  /-- It is a type that is to be converted to or to be given types. -/
  type : Option Weight
  /-- It is a type that can take type arguments. -/
  head : Option Weight
  /-- It is a type that a literal in braces can have. -/
  literal : Option Weight
  /-- It is a value with type arguments, before the arguments of a call. -/
  applied : Option Weight

namespace Operand

def ofValue (w : Option Weight) : Operand :=
  ⟨false, w, none, none, none, none⟩

def name : Operand :=
  ⟨true, some 0, some Weight.plainName, some 0, some 0, none⟩

/-- Whether a literal can have a type of the form; a function literal counts as one. -/
def hasLiterals : TypeForm → Bool
  | .other kind =>
      kind == .map || kind == .slice || kind == .array || kind == .struct || kind == .generic
        || kind == .function
  | _ => false

def ofType (r : TypeReading) : Operand :=
  ⟨false, none, some r.weight, none, if hasLiterals r.form then some r.weight else none, none⟩

def ofParens (s : ParenSenses) : Operand :=
  ⟨false, s.value, s.mixedType, none, none, none⟩

def selected (o : Operand) : Operand :=
  let type : Option Weight := if o.isName then some 0 else none
  ⟨false, o.value, type, type, type, none⟩

def asserted (o : Operand) (s : ParenSenses) : Operand :=
  ofValue (Weight.join o.value s.type)

def indexed (o : Operand) (s : SquareSenses) : Operand :=
  let type := Weight.join (Weight.join o.head s.types) (some Weight.generic)
  { isName := false
    value := Weight.heavier (Weight.join o.value (Weight.heavier s.value s.bounds))
      (Weight.join o.type s.plainTypes)
    type := type
    head := none
    literal := type
    applied := Weight.join (Weight.join o.value s.mixedTypes) (some Weight.applied) }

def called (o : Operand) (s : ParenSenses) : Operand :=
  ofValue (Weight.heavier (Weight.join (Weight.heavier o.value o.applied) s.arguments)
    (Weight.join (Weight.join o.type s.operand) (some Weight.conversion)))

def completed (o : Operand) : Operand :=
  ofValue o.literal

/-- The value of an operand with all that follows it, and the marks after that. -/
def extend (o : Operand) : List Mark → Option Weight × List Mark
  | [] => (o.value, [])
  | m :: ms =>
      match m.sign with
      | .squares s => extend (o.indexed s) ms
      | .parens s => extend (o.called s) ms
      | .braces => extend o.completed ms
      | .symbol '.' =>
          match ms with
          | [] => (o.value, [m])
          | n :: rest =>
              match n.sign with
              | .word _ => extend o.selected rest
              | .parens s => extend (o.asserted s) rest
              | _ => (o.value, m :: n :: rest)
      | _ => (o.value, m :: ms)

/-- The operands that are types and start with the first of the marks, with the marks after them. -/
def types (ms : List Mark) : List (Operand × List Mark) :=
  (TypeReading.readAll false true ms).map fun r => (ofType r, ms.drop r.size)

def dotted (ms : List Mark) : List (Operand × List Mark) :=
  (TypeReading.readAll false false ms).map fun r =>
    (⟨false, none, none, none, some r.weight, none⟩, ms.drop r.size)

def creation : List Mark → List (Operand × List Mark)
  | [] => [(ofValue (some 0), [])]
  | m :: ms =>
      match m.sign with
      | .parens s => [(ofValue s.creation, ms)]
      | _ => [(ofValue (some 0), m :: ms)]

/-- The ways to read the operand that starts with the first of the marks, each with the marks after
it. -/
def start : List Mark → List (Operand × List Mark)
  | [] => []
  | m :: ms =>
      match m.sign with
      | .literal | .text | .stray => [(ofValue (some 0), ms)]
      | .parens s => [(ofParens s, ms)]
      | .squares s => if s.isDots then dotted ms else types (m :: ms)
      | .symbol '~' => types (m :: ms)
      | .symbol _ | .braces => []
      | .word w =>
          if typeWords.contains w then types (m :: ms)
          else if w = "new" ∨ w = "make" then creation ms
          else if valueWords.contains w then [(ofValue (some 0), ms)]
          else [(name, ms)]

def farthest : List (Option Weight × List Mark) → Option Weight × List Mark
  | [] => (none, [])
  | (w, rest) :: more =>
      match farthest more with
      | (none, _) => (w, rest)
      | (some v, later) =>
          match w with
          | none => (some v, later)
          | some u =>
              if rest.length < later.length ∨ (rest.length = later.length ∧ v.total ≤ u.total) then
                (some u, rest)
              else (some v, later)

end Operand

/-! ## Operators -/

namespace Operator

/-- How many marks of operators that stand before an operand the marks start with. -/
def prefixSize : List Mark → Nat
  | [] => 0
  | m :: ms =>
      match m.sign with
      | .symbol '<' =>
          match ms with
          | [] => 0
          | n :: rest => if n.isJoined '-' then prefixSize rest + 2 else 0
      | .symbol c =>
          if c == '+' || c == '-' || c == '!' || c == '^' || c == '*' || c == '&' then
            prefixSize ms + 1
          else 0
      | _ => 0

/-- How many characters an operator between operands has that starts with `c`; `next` tells whether a
character follows directly. No such operator starts with the other characters. -/
def length? (c : Char) (next : Char → Bool) : Option Nat :=
  match c with
  | '*' | '/' | '%' | '+' | '-' | '^' => some 1
  | '<' => some (if next '<' || next '=' then 2 else 1)
  | '>' => some (if next '>' || next '=' then 2 else 1)
  | '&' => some (if next '&' || next '^' then 2 else 1)
  | '|' => some (if next '|' then 2 else 1)
  | '=' | '!' => if next '=' then some 2 else none
  | _ => none

def joins (ms : List Mark) (c : Char) : Bool :=
  (ms.head?.map (·.isJoined c)).getD false

/-- How many marks an operator between operands takes, if the marks start with one. -/
def binarySize? : List Mark → Option Nat
  | [] => none
  | m :: ms =>
      match m.sign with
      | .symbol c => length? c (joins ms)
      | _ => none

end Operator

/-! ## Values -/

namespace Value

/-- The weight of a value that goes on after readings of weight `before`; `fuel` bounds the number of
its operands. -/
def weightFrom : Nat → Weight → List Mark → Option Weight
  | 0, _, _ => none
  | fuel + 1, before, ms =>
      let operands := Operand.start (ms.drop (Operator.prefixSize ms))
      let readings := operands.map fun (o, rest) => o.extend rest
      match Operand.farthest readings with
      | (none, _) => none
      | (some w, []) => some (before + w)
      | (some w, m :: rest) =>
          match Operator.binarySize? (m :: rest) with
          | none => none
          | some n => weightFrom fuel (before + w) ((m :: rest).drop n)

def weight (ms : List Mark) : Option Weight :=
  weightFrom ms.length 0 ms

def optional (ms : List Mark) : Option Weight :=
  if ms.isEmpty then some 0 else weight ms

end Value
end Source
end GoSurvey
