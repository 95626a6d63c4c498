import GoSurvey.Source.TypeReading

/-!
# Reading struct fields

A field declaration is a list of names and a type, or an embedded type; a tag may follow on the line
of its end. A declaration ends with a line or a semicolon.

* `FieldReading` — where the parts of a declaration stand;
* `FieldReading.readAll` — the declarations that start with the first mark;
* `FieldReading.readList` — the declarations of a struct.

A name with brackets after it is an embedded type with type arguments, or a field of which the array
type may go on in the next line. The heavier reading of the whole struct decides.
-/

namespace GoSurvey
namespace Source

/-- A way to read a field declaration: its names, its type with the mark at which that starts, and
the mark of its tag. A type without names is embedded, after a star or not. -/
structure FieldReading where
  names : List String
  star : Bool
  typeStart : Nat
  type : TypeReading
  tag : Option Nat
  size : Nat

namespace FieldReading

/-! ## One declaration -/

def tagAt (n : Nat) (ms : List Mark) : Option Nat :=
  match ms.drop n with
  | [] => none
  | m :: _ => if m.sign == .text && !m.newLine then some n else none

def complete (names : List String) (star : Bool) (typeStart : Nat) (ms : List Mark)
    (type : TypeReading) : Option FieldReading :=
  let stop := typeStart + type.size
  let tag := tagAt stop ms
  let size := if tag.isSome then stop + 1 else stop
  if Marks.atEnd (ms.drop size) then some ⟨names, star, typeStart, type, tag, size⟩ else none

/-- The declarations with the names, of which the type starts at the mark `n`. -/
def named (names : List String) (n : Nat) (ms : List Mark) : List FieldReading :=
  (TypeReading.readAll true false (ms.drop n)).filterMap (complete names false n ms)

/-- The embedded types that start with the name `id`; `ms` are the marks after it. A name without a
package weighs nothing here. Brackets after a name without a star could hold the length of an array
as well. -/
def embeddedTypes (star : Bool) (id : String) (ms : List Mark) : List TypeReading :=
  (TypeReading.named true id ms).filterMap fun r =>
    match r.form, r.size, ms with
    | .name _, _, _ => some { r with weight := 0 }
    | .other .generic, 2, m :: _ =>
        match m.sign with
        | .squares s =>
            if star then some r
            else s.mixedTypes.map fun w => { r with weight := w + Weight.generic }
        | _ => some r
    | _, _, _ => some r

/-- The embedded types that start with a tilde, at the first of `ms`: all of them end with type
arguments, and no line ends before those. -/
def embeddedAfterTilde (ms : List Mark) : List TypeReading :=
  (TypeReading.readAll false false ms).filter (·.form == .other .generic)

/-- The names at the start of a declaration after the first, with the commas before them. -/
def moreNames : List Mark → List String
  | comma :: m :: ms =>
      match m.sign with
      | .word name => if comma.isSymbol ',' then name :: moreNames ms else []
      | _ => []
  | _ => []

/-- The field declarations that start with the first of the marks. A line end after a single name
ends the declaration; after several names the type may follow on the next line. -/
def readAll (ms : List Mark) : List FieldReading :=
  match ms with
  | [] => []
  | m :: rest =>
      match m.sign with
      | .symbol '*' =>
          match rest with
          | [] => []
          | n :: later =>
              match n.sign with
              | .word id => (embeddedTypes true id later).filterMap (complete [] true 1 ms)
              | .symbol '~' => (embeddedAfterTilde rest).filterMap (complete [] true 1 ms)
              | _ => []
      | .symbol '~' => (embeddedAfterTilde ms).filterMap (complete [] false 0 ms)
      | .word id =>
          let embedded := (embeddedTypes false id rest).filterMap (complete [] false 0 ms)
          match rest with
          | [] => embedded
          | n :: _ =>
              if n.newLine then embedded
              else
                let names := id :: moreNames rest
                -- Each name but the last has a comma behind it.
                named names (2 * names.length - 1) ms ++ embedded
      | _ => []

/-! ## All declarations -/

/-- Declarations with the number of marks from the start of each to the end of the list, and their
weight. -/
structure Fields where
  weight : Weight
  list : List (Nat × FieldReading)

/-- The declarations after one that starts `left` marks before the end of the list. -/
def Fields.cons (left : Nat) (f : FieldReading) (later : Fields) : Fields :=
  ⟨f.type.weight + later.weight, (left, f) :: later.list⟩

/-- The better of two readings. At a tie the first one counts, unless it starts with a named field
and the second one with an embedded type that put it ahead, or that comes first in the struct while
the first one goes on after its field. -/
def better (isFirst : Bool) (a b : Fields) : Fields :=
  let isAhead : Bool :=
    match a.list, b.list with
    | (_, f) :: more, (_, g) :: _ =>
        !f.names.isEmpty && g.names.isEmpty
          && (decide (0 < g.type.weight.total) || (isFirst && !more.isEmpty))
    | _, _ => false
  if a.weight.total < b.weight.total ∨ (a.weight.total = b.weight.total ∧ isAhead) then b else a

/-- The fields of the last marks of a list, `left` in number; `later` are those of all shorter ends of
the list, the longest first, and `isFirst` tells whether the marks are the whole list. What starts no
declaration is passed over. -/
def readEnd (isFirst : Bool) (left : Nat) (ms : List Mark) (later : List Fields) : Fields :=
  let after (n : Nat) : Fields := (later.drop (n - 1)).head?.getD ⟨0, []⟩
  match (readAll ms).map fun f => (after f.size).cons left f with
  | first :: more => more.foldl (better isFirst) first
  | [] =>
      match ms with
      | [] => ⟨0, []⟩
      | m :: _ =>
          if m.isSymbol ';' then after 1
          else { after 1 with weight := Weight.skipped + (after 1).weight }

def readEnds (count : Nat) (ms : List Mark) : List Fields :=
  (ms.foldr
    -- From the right end on: the number of the marks gone through, these marks, and the fields of
    -- all their ends.
    (fun m (left, rest, later) =>
      (left + 1, m :: rest, readEnd (left + 1 == count) (left + 1) (m :: rest) later :: later))
    (0, ([] : List Mark), [(⟨0, []⟩ : Fields)])).2.2

/-- The field declarations of a struct, each with the mark at which it starts. -/
def readList (ms : List Mark) : List (Nat × FieldReading) :=
  let count := ms.length
  match readEnds count ms with
  | [] => []
  | fields :: _ => fields.list.map fun (left, f) => (count - left, f)

end FieldReading
end Source
end GoSurvey
