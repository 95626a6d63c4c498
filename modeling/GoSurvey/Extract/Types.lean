import GoSurvey.Extract.Noted
import GoSurvey.Source.Outline
import GoSurvey.TypeShape

/-!
# Types of fields, parameters and results

* `TypeShape.ofExpr` — the shape of a type expression;
* `Extract.resolve` — the resolved type of a shape; an unsupported one raises a diagnostic and
  resolves to the empty type.
-/

namespace GoSurvey

open Model

def Model.Position.ofPlace (p : Source.Place) : Position :=
  ⟨(p.row + 1).toUInt32, p.column.toUInt32, p.offset.toUInt32⟩

/-- The shape of a type expression. A pointer is resolvable only if nothing, not even a comment,
stands between the star and a name. -/
def TypeShape.ofExpr (t : Source.TypeExpr) : TypeShape :=
  match t.form with
  | .name id => .ident id
  | .qualified package id => .qualified package id
  | .pointer false (.name id) => .pointerIdent id
  | .pointer false (.qualified package id) => .pointerQualified package id
  | .pointer _ _ => .unsupported "pointer_type" t.text
  | .other kind => .unsupported kind.label t.text

namespace Extract

/-- Whose part a diagnostic is about: the declaration and the item in it. -/
structure Subject where
  owner : String
  item : String
deriving DecidableEq

def report (subject : Subject) (place : Source.Place) (message : String) : Noted Unit :=
  Noted.note ⟨subject.owner, subject.item, .ofPlace place, message⟩

def unresolved : ResolvedType := ⟨"", false⟩

def resolve (subject : Subject) (place : Source.Place) (shape : TypeShape) : Noted ResolvedType :=
  match shape.resolve with
  | .ok resolved => pure resolved
  | .error e => do
      report subject place e.message
      pure unresolved

def resolveExpr (subject : Subject) (t : Source.TypeExpr) : Noted ResolvedType :=
  resolve subject t.start (.ofExpr t)

end Extract
end GoSurvey
