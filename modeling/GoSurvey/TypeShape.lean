import GoSurvey.Text.Cut

/-!
# Type shapes

The survey resolves a type that is a name, bare or of another package, behind at most one pointer.
Every other type keeps its kind and its text for the report.

* `TypeShape.toPointer` — the shape behind one more pointer;
* `TypeShape.canonical?`, `TypeShape.display` — the text of a shape;
* `TypeShape.parse` — the shape that a canonical text spells;
* `TypeShape.resolve` — the text and the pointer flag of a shape, or the refusal to give them.
-/

namespace GoSurvey

inductive TypeShape where
  | ident (name : String)
  | pointerIdent (name : String)
  | qualified (package name : String)
  | pointerQualified (package name : String)
  | unsupported (kind text : String)
deriving DecidableEq

/-- A type that the survey does not resolve: what kind it is and how it is written. -/
structure UnsupportedType where
  kind : String
  text : String
deriving DecidableEq

def UnsupportedType.message (e : UnsupportedType) : String :=
  "unsupported type shape `" ++ e.kind ++ "`: " ++ e.text

/-- A resolved type: its canonical text and whether it is a pointer. -/
structure ResolvedType where
  typeName : String
  pointer : Bool
deriving DecidableEq

namespace TypeShape

open Text

/-! ## Views -/

def isPointer : TypeShape → Bool
  | pointerIdent _ | pointerQualified _ _ => true
  | _ => false

def baseName? : TypeShape → Option String
  | ident name | pointerIdent name | qualified _ name | pointerQualified _ name => some name
  | unsupported _ _ => none

/-- The text of a resolved shape: a star for a pointer, a point after the package. -/
def canonical? : TypeShape → Option String
  | ident name => some name
  | pointerIdent name => some ("*" ++ name)
  | qualified package name => some (package ++ "." ++ name)
  | pointerQualified package name => some ("*" ++ package ++ "." ++ name)
  | unsupported _ _ => none

def display : TypeShape → String
  | unsupported _ text => text
  | shape => shape.canonical?.getD ""

/-! ## Pointers -/

/-- The same type behind one more pointer. Only a name without a pointer stays resolvable. -/
def toPointer : TypeShape → TypeShape
  | ident name => pointerIdent name
  | qualified package name => pointerQualified package name
  | unsupported kind text => unsupported kind ("*" ++ text)
  | shape => unsupported "pointer_type" ("*" ++ shape.display)

/-! ## Resolution -/

def resolve : TypeShape → Except UnsupportedType ResolvedType
  | unsupported kind text => .error ⟨kind, text⟩
  | shape => .ok ⟨shape.canonical?.getD "", shape.isPointer⟩

/-! ## Parsing -/

/-- A plain name: a letter or low line, then letters, numbers and low lines. -/
def isIdentifier : List Char → Bool
  | [] => false
  | c :: s => (isAlphabetic c || c == '_') && s.all fun d => isAlphanumeric d || d == '_'

def parseName (pointer : Bool) (s : List Char) : Option TypeShape :=
  match cut? '.' s with
  | some (package, name) =>
      if isIdentifier package && isIdentifier name then
        let shape := if pointer then pointerQualified else qualified
        some (shape (String.ofList package) (String.ofList name))
      else none
  | none =>
      if isIdentifier s then
        let shape := if pointer then pointerIdent else ident
        some (shape (String.ofList s))
      else none

/-- The shape that a canonical text spells: at most one star, then a name or a package, a point
and a name. Any other text is unsupported as a whole. -/
def parse (text : String) : Except UnsupportedType TypeShape :=
  let shape :=
    match dropPrefix? ['*'] text.toList with
    | some rest => parseName true rest
    | none => parseName false text.toList
  match shape with
  | some shape => .ok shape
  | none => .error ⟨"text", text⟩

end TypeShape
end GoSurvey
