import GoSurvey.Source.Mark
import GoSurvey.Source.Outline

/-!
# Reading types

A type starts at the first of a list of marks, and may be read in several ways, which differ in how
many marks they take: `a[b]` is a name, with something else after it, or a name with type arguments.

* `TypeReading` — the form of a type, its size and its weight;
* `TypeReading.readAll` — the types that start with the first mark;
* `TypeReading.sole` — the types that all of the marks are together.

Where `stop` is set, a line end ends the type if it can end there. A part that has to follow may
stand on a later line. Where `mixed` is set, a value can stand in place of the type, and the words
for values are no names.
-/

namespace GoSurvey
namespace Source

/-- A way to read a type: its form, how many marks it takes, and how much it weighs. -/
structure TypeReading where
  form : TypeForm
  size : Nat
  weight : Weight
deriving DecidableEq

namespace TypeReading

/-! ## Parts of types -/

def heaviest : List TypeReading → Option TypeReading
  | [] => none
  | r :: rs =>
      match heaviest rs with
      | none => some r
      | some s => if r.weight.total < s.weight.total then some s else some r

/-- A type of the kind that ends with the type `r`, after `size` more marks. -/
def around (kind : TypeKind) (size : Nat) (weight : Weight) (r : TypeReading) : TypeReading :=
  ⟨.other kind, r.size + size, weight + r.weight⟩

def pointer (ms : List Mark) (r : TypeReading) : TypeReading :=
  ⟨.pointer ((ms.head?.map Mark.commented).getD false) r.form, r.size + 1, r.weight⟩

def arguments? (stop : Bool) : List Mark → Option Weight
  | [] => none
  | m :: _ =>
      match m.sign with
      | .squares s => if m.breaks stop then none else s.types
      | _ => none

/-- The type after `size` marks of weight `weight`, with type arguments if `ms` start with some. -/
def generic (stop : Bool) (size : Nat) (weight : Weight) (ms : List Mark) : List TypeReading :=
  ((arguments? stop ms).map fun w =>
    (⟨.other .generic, size + 1, weight + w + Weight.generic⟩ : TypeReading)).toList

/-- The types that start with the name `id`; `ms` are the marks after it. -/
def named (stop : Bool) (id : String) (ms : List Mark) : List TypeReading :=
  let plain := generic stop 1 0 ms ++ [⟨.name id, 1, Weight.plainName⟩]
  match ms with
  | point :: member :: rest =>
      match member.sign with
      | .word name =>
          if point.isSymbol '.' && !point.breaks stop then
            generic stop 3 0 rest ++ [⟨.qualified id name, 3, 0⟩]
          else plain
      | _ => plain
  | _ => plain

/-- Of the readings with each form and size the heaviest, the first one at a tie. -/
def distinct : List TypeReading → List TypeReading
  | [] => []
  | r :: rs =>
      let others := distinct rs
      let isAlike (s : TypeReading) : Bool := s.size == r.size && s.form == r.form
      if others.any fun s => isAlike s && decide (r.weight.total < s.weight.total) then others
      else r :: others.filter (!isAlike ·)

/-- A tilde and one of the types `rs` after it; type arguments may belong to both together. `ms` are
the marks after the tilde. -/
def negated (stop : Bool) (ms : List Mark) (rs : List TypeReading) : List TypeReading :=
  distinct ((rs.flatMap fun r => generic stop (r.size + 1) r.weight (ms.drop r.size)) ++
    rs.map (around .negated 1 0))

def braced (kind : TypeKind) : List Mark → List TypeReading
  | [] => []
  | m :: _ => if m.isBraces then [⟨.other kind, 2, 0⟩] else []

def canStart (m : Mark) : Bool :=
  match m.sign with
  | .word _ | .parens _ | .squares _ => true
  | .symbol c => c == '*' || c == '~' || c == '<'
  | _ => false

/-- A function type of which the parameters weigh `w`; `ms` are the marks after them, and `results`
the types that these start with. A result belongs to the function whenever one can start. -/
def function (stop : Bool) (ms : List Mark) (results : List TypeReading) (w : Weight) :
    List TypeReading :=
  match ms with
  | [] => [⟨.other .function, 2, w⟩]
  | m :: _ =>
      if m.breaks stop || !canStart m then [⟨.other .function, 2, w⟩]
      else
        match m.sign with
        | .parens s =>
            (s.params.map fun v => (⟨.other .function, 3, w + v⟩ : TypeReading)).toList
        | _ => results.map (around .function 2 w)

/-! ## Types -/

def readAll (stop mixed : Bool) : List Mark → List TypeReading
  | [] => []
  | m :: ms =>
      match m.sign with
      | .symbol '*' => (readAll stop mixed ms).map (pointer ms)
      | .symbol '~' => negated stop ms (readAll stop false ms)
      | .symbol '<' =>
          match ms with
          | d :: c :: rest =>
              if d.isJoined '-' && c.isWord "chan" then
                (readAll stop false rest).map (around .channel 3 0)
              else []
          | _ => []
      -- What stands in parentheses has been read when they were closed.
      | .parens s =>
          ((if mixed then s.mixedType else s.type).map fun w =>
            (⟨.other .parenthesized, 1, w⟩ : TypeReading)).toList
      | .squares s =>
          if s.isEmpty then (readAll stop false ms).map (around .slice 1 0)
          else
            match s.value with
            | some w => (readAll stop false ms).map (around .array 1 w)
            | none => []
      | .word "struct" => braced .struct ms
      | .word "interface" => braced .interface ms
      | .word "map" =>
          match ms with
          | [] => []
          | k :: rest =>
              match k.sign with
              | .squares s =>
                  match s.type with
                  | some w => (readAll stop false rest).map (around .map 2 w)
                  | none => []
              | _ => []
      -- The arrow belongs to this channel or opens the channel type that is its element.
      | .word "chan" =>
          let plain := (readAll stop false ms).map (around .channel 1 0)
          match ms with
          | d :: e :: rest =>
              if d.isSymbol '<' && e.isJoined '-' then
                (readAll stop false rest).map (around .channel 3 0) ++ plain
              else plain
          | _ => plain
      | .word "func" =>
          match ms with
          | [] => []
          | p :: rest =>
              let results := readAll stop false rest
              match p.sign with
              | .parens s => s.params.toList.flatMap (function stop rest results)
              | _ => []
      | .word id => if mixed && valueWords.contains id then [] else named stop id ms
      | _ => []

/-- The types that all of the marks are together, line ends being blanks. -/
def sole (mixed : Bool) (ms : List Mark) : List TypeReading :=
  (readAll false mixed ms).filter (·.size == ms.length)

def soleWeight (mixed : Bool) (ms : List Mark) : Option Weight :=
  (heaviest (sole mixed ms)).map (·.weight)

/-- The heaviest of the types that start with the first mark and end where `fits` holds of the marks
after them; if there is none, the longest. -/
def choose (stop : Bool) (fits : List Mark → Bool) (ms : List Mark) : Option TypeReading :=
  let readings := readAll stop false ms
  (heaviest (readings.filter fun r => fits (ms.drop r.size))).or
    -- At a tie the first reading stays.
    (readings.foldl (fun best r =>
      match best with
      | none => some r
      | some b => if b.size < r.size then some r else some b) none)

end TypeReading
end Source
end GoSurvey
