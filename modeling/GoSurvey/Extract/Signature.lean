import GoSurvey.Extract.Types

/-!
# Signatures

Every name of a parameter list has an entry of its own: `a, b int` gives two entries that share one
resolved type, and a type without a name gives one entry. A diagnostic about an item is labelled by
its first name, or else by a number: the item's index in the parameter list, or the number of
results before it.

* `Extract.params`, `Extract.results` — the entries of a list;
* `Extract.signature` — both sides of a signature.
-/

namespace GoSurvey
namespace Extract

open Model Source

/-- The label of an item: its first name, or the number it is counted by. -/
def itemLabel (item : ParamItem) (number : Nat) : String :=
  item.names.head?.getD ("#" ++ number.repr)

/-- The type of a parameter. A variadic one is never supported, and is reported where it starts. -/
def paramType (subject : Subject) (item : ParamItem) : Noted ResolvedType :=
  if item.variadic then
    resolve subject item.start (.unsupported "variadic" ("..." ++ item.type.text))
  else resolveExpr subject item.type

/-- The entries of a parameter list from the item with the given index on. -/
def params (label funcName : String) : Nat → List ParamItem → Noted (List Param)
  | _, [] => pure []
  | index, item :: rest => do
      let type ← paramType ⟨label, itemLabel item index⟩ item
      let names := if item.names.isEmpty then [""] else item.names
      let later ← params label funcName (index + 1) rest
      pure (names.map (fun name => ⟨funcName, name, type.typeName, type.pointer⟩) ++ later)

def resultList (label funcName : String) : Nat → List ParamItem → Noted (List Result)
  | _, [] => pure []
  | count, item :: rest => do
      let type ← resolveExpr ⟨label, itemLabel item count⟩ item.type
      let names := if item.names.isEmpty then [none] else item.names.map some
      let later ← resultList label funcName (count + names.length) rest
      pure (names.map (fun name => ⟨funcName, name, type.typeName, type.pointer⟩) ++ later)

def results (label funcName : String) : ResultSpec → Noted (List Result)
  | .absent => pure []
  | .single type => do
      let resolved ← resolveExpr ⟨label, "#0"⟩ type
      pure [⟨funcName, none, resolved.typeName, resolved.pointer⟩]
  | .list items => resultList label funcName 0 items

/-- The label of a callable: its name after the name of its owner, unless the two are the same. -/
def callableLabel (owner funcName : String) : String :=
  if owner = funcName then funcName else owner ++ "." ++ funcName

def signature (owner funcName : String) (s : Signature) : Noted (List Param × List Result) := do
  let label := callableLabel owner funcName
  let ps ← params label funcName 0 s.params
  let rs ← results label funcName s.result
  pure (ps, rs)

end Extract
end GoSurvey
