import GoSurvey.Source.ValueReading

/-!
# Reading lists between brackets

* `Values.arguments`, `Values.operand`, `Values.creation`, `Values.bounds` — lists of values;
* `Types.arguments`, `Types.plain`, `Types.params` — lists of types and of type parameters;
* `ParamReading.readList` — the items of a parameter list.

In a parameter list a run of lone names belongs to the type that follows the last of them
(`a, b int`); names that no type follows are types themselves (`a, b`). Inside such a run every word
is a name, so that `a, map[b]c` can be two names with an array type.
-/

namespace GoSurvey
namespace Source

open Marks

/-! ## Values -/

namespace Values

def argument (ms : List Mark) : Option Weight :=
  match afterDots? (ms.drop (ms.length - 3)) with
  | some [] => Value.weight (ms.take (ms.length - 3))
  | _ => Value.weight ms

def arguments (ms : List Mark) : Option Weight :=
  Weight.sum ((commaParts ms).map argument)

def operand (ms : List Mark) : Option Weight :=
  match commaParts ms with
  | [part] => Value.weight part
  | _ => none

/-- The arguments of a call that makes a new value: a type, and values after it. -/
def creation (ms : List Mark) : Option Weight :=
  match commaParts ms with
  | [] => some 0
  | type :: values =>
      Weight.join (TypeReading.soleWeight false type) (Weight.sum (values.map Value.weight))

def bounds (ms : List Mark) : Option Weight :=
  match splitBy (·.isSymbol ':') ms with
  | [low, high] => Weight.join (Value.optional low) (Value.optional high)
  | [low, high, most] =>
      Weight.sum [Value.optional low, Value.weight high, Value.weight most]
  | _ => none

end Values

/-! ## Types -/

namespace Types

/-- The weight of a union of types; where `mixed` is set a value can stand in its place. -/
def union (mixed : Bool) (ms : List Mark) : Option Weight :=
  match splitBy (·.isSymbol '|') ms with
  | [] => none
  | first :: more =>
      Weight.join (TypeReading.soleWeight mixed first)
        (Weight.sum (more.map (TypeReading.soleWeight false)))

def arguments (mixed : Bool) (ms : List Mark) : Option Weight :=
  match commaParts ms with
  | [] => none
  | first :: more => Weight.join (union mixed first) (Weight.sum (more.map (union false)))

def plain (ms : List Mark) : Option Weight :=
  match commaParts ms with
  | [] => none
  | parts => Weight.sum (parts.map (TypeReading.soleWeight false))

/-- The weight of a type parameter with its constraint; none if the part is no more than a name. -/
def param (part : List Mark) : Option Weight :=
  match part with
  | m :: ms => if m.word?.isSome then union false ms else none
  | [] => none

/-- The weight of type parameters, each a name by itself or a name with a constraint. The last one
has a constraint. -/
def paramParts : List (List Mark) → Option Weight
  | [] => none
  | [part] => param part
  | part :: parts =>
      match part with
      | [m] => if m.word?.isSome then paramParts parts else none
      | _ => Weight.join (param part) (paramParts parts)

/-- Whether the first of the marks can be a name where a value can stand as well. -/
def startsWithName : List Mark → Bool
  | [] => false
  | m :: _ => (m.word?.map fun w => !typeWords.contains w && !valueWords.contains w).getD false

def params (ms : List Mark) : Option Weight :=
  if startsWithName ms then paramParts (commaParts ms) else none

end Types

/-! ## Parameter lists -/

/-- A way to read an item of a parameter list: the mark at which it starts, its names, and its type
with the mark at which that starts. -/
structure ParamReading where
  start : Nat
  names : List String
  variadic : Bool
  typeStart : Nat
  type : TypeReading

namespace ParamReading

/-- The part of a list that starts at the mark `start`. -/
structure Part where
  start : Nat
  marks : List Mark

/-- The nonempty parts of a list between commas, each with the mark at which it starts. -/
def parts (ms : List Mark) : List Part :=
  ((splitBy (·.isSymbol ',') ms).foldl
    (fun (next, found) part =>
      (next + part.length + 1, if part.isEmpty then found else ⟨next, part⟩ :: found))
    (0, ([] : List Part))).2.reverse

def loneWord? (part : Part) : Option String :=
  match part.marks with
  | [m] => m.word?
  | _ => none

def namedIn (part : Part) : Option ParamReading :=
  match part.marks with
  | [] => none
  | m :: ms =>
      m.word?.bind fun name =>
        (TypeReading.heaviest (TypeReading.sole false ms)).map fun type =>
          ⟨part.start, [name], false, part.start + 1, type⟩

def variadicIn (part : Part) : Option ParamReading :=
  let reading (names : List String) (skip : Nat) (ms : List Mark) : Option ParamReading :=
    (TypeReading.heaviest (TypeReading.sole false ms)).map fun type =>
      ⟨part.start, names, true, part.start + skip, type⟩
  match afterDots? part.marks with
  | some ms => reading [] 3 ms
  | none =>
      match part.marks with
      | [] => none
      | m :: ms => m.word?.bind fun name => (afterDots? ms).bind fun rest => reading [name] 4 rest

/-- The part as a type. After the single name that a part starts with, square brackets could hold
the length of an array as well. -/
def typeIn (part : Part) : Option ParamReading :=
  let plain := TypeReading.heaviest (TypeReading.sole false part.marks)
  let type : Option TypeReading :=
    match part.marks with
    | [name, args] =>
        match name.sign, args.sign with
        | .word _, .squares s =>
            plain.bind fun r =>
              s.mixedTypes.map fun w => { r with weight := w + Weight.generic }
        | _, _ => plain
    | _ => plain
  type.map fun r => ⟨part.start, [], false, part.start, r⟩

/-- Whether the part starts with a word that is no name at the start of an item. -/
def startsWithTypeWord (part : Part) : Bool :=
  match part.marks with
  | [] => false
  | m :: _ => (m.word?.map typeWords.contains).getD false

def ofPart (part : Part) : Option ParamReading :=
  if startsWithTypeWord part then typeIn part
  else (variadicIn part).or ((typeIn part).or (namedIn part))

structure Items where
  weight : Weight
  list : List ParamReading

/-- The rest of an item after lone names, and the items after it. -/
structure Run where
  names : List String
  last : ParamReading
  later : Items

/-- How the parts of a list from some part on can be read: as items, and as the rest of an item that
has started with lone names. -/
structure Suffix where
  items : Option Items
  run : Option Run

def Items.cons (p : ParamReading) (later : Items) : Items :=
  ⟨p.type.weight + later.weight, p :: later.list⟩

def Run.toItems (start : Nat) (name : String) (r : Run) : Items :=
  r.later.cons { r.last with start := start, names := name :: r.names }

/-- The better of two readings, of which the second takes the first part for a lone name. At a tie
it counts, unless its item is the first of the list and not the only one. -/
def better (start : Nat) (types : Option Items) (names : Option Items) : Option Items :=
  match types, names with
  | none, names => names
  | types, none => types
  | some t, some n =>
      if t.weight.total < n.weight.total then some n
      else if n.weight.total < t.weight.total then some t
      else if start = 0 ∧ 1 < n.list.length then some t
      else some n

def extendSuffix (part : Part) (later : Suffix) : Suffix :=
  let alone := (ofPart part).bind fun p => later.items.map (Items.cons p)
  let lone := loneWord? part
  let names :=
    if startsWithTypeWord part then none
    else lone.bind fun name => later.run.map (Run.toItems part.start name)
  let run :=
    match lone with
    | some name => later.run.map fun r => { r with names := name :: r.names }
    | none =>
        (namedIn part).bind fun p => later.items.map fun items => ⟨p.names, p, items⟩
  ⟨better part.start alone names, run⟩

def readList? (ms : List Mark) : Option Items :=
  ((parts ms).foldr extendSuffix ⟨some ⟨0, []⟩, none⟩).items

/-- The items of a parameter list; of a list that cannot be read as a whole, those parts that can be
read by themselves. -/
def readList (ms : List Mark) : List ParamReading :=
  match readList? ms with
  | some items => items.list
  | none => (parts ms).filterMap ofPart

end ParamReading
end Source
end GoSurvey
