import GoSurvey.Source.TypeExpr
import GoSurvey.Source.Extent

/-!
# Reading signatures

* `ParamItem.readList` — the items of a parameter list;
* `Signature.read` — parameters and result.
-/

namespace GoSurvey
namespace Source

namespace ParamItem

/-- The items that readings find in a passage of which the first `passed` pieces have been left out.
Each reading starts after the one before it. -/
def ofReadings (passed : Nat) (p : Passage) : List ParamReading → List ParamItem
  | [] => []
  | r :: rs =>
      let here := p.drop (r.start - passed)
      let item : ParamItem :=
        ⟨here.start, r.names, r.variadic,
          TypeExpr.ofReading (here.drop (r.typeStart - r.start)) r.type⟩
      item :: ofReadings r.start here rs

def readList (body : List Token) : List ParamItem :=
  let p := Passage.ofTokens body
  ofReadings 0 p (ParamReading.readList p.marks)

end ParamItem

/-- The result that a passage starts with, if there is one on this line. -/
def ResultSpec.read (p : Passage) : ResultSpec :=
  match Extent.result p.marks with
  | 0 => .absent
  | _ =>
      match p.body? "(" with
      | some body => .list (ParamItem.readList body)
      | none =>
          match TypeReading.choose true Extent.atBody p.marks with
          | some r => .single (TypeExpr.ofReading p r)
          | none => .absent

def Signature.read (p : Passage) : Signature :=
  ⟨((p.body? "(").map ParamItem.readList).getD [], ResultSpec.read (p.drop 1)⟩

end Source
end GoSurvey
