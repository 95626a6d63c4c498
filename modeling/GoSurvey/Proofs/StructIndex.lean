import GoSurvey.Extract
import Mathlib.Data.List.Induction

/-!
# The index of structs

The second pass over a file does not search the structs for the owner of a method. It looks the
owner up in an index that was made before the pass, and adds the method at the positions found
there, while the structs change under it.

* `Extract.NameIndex.Locates` — what the index has to say about a list of names;
* `Extract.locates_structIndex` — the index says it of the structs that it was made from;
* `Extract.NameIndex.Locates.attach` — it goes on saying it while methods are added;
* `Extract.attach_positionsOf` — adding a method at the positions of its owner is adding it to every
  struct of its owner's name, once.
-/

namespace GoSurvey
namespace Extract

open Model

/-- The positions at which a name stands in a list, in increasing order. -/
def positionsOf (names : List String) (name : String) : List Nat :=
  (List.range names.length).filter fun i => names[i]? = some name

/-- The positions of a name are the indices at which the list has it. -/
theorem mem_positionsOf_iff {names : List String} {name : String} {i : Nat} :
    i ∈ positionsOf names name ↔ names[i]? = some name := by
  simp only [positionsOf, List.mem_filter, List.mem_range, decide_eq_true_eq,
    and_iff_right_iff_imp]
  intro h
  exact (List.getElem?_eq_some_iff.1 h).1

theorem positionsOf_eq_nil {names : List String} {name : String} (h : name ∉ names) :
    positionsOf names name = [] := by
  refine List.eq_nil_iff_forall_not_mem.2 ?_
  intro i hi
  exact h (List.mem_of_getElem? (mem_positionsOf_iff.1 hi))

/-- No position is listed twice. -/
theorem positionsOf_nodup (names : List String) (name : String) : (positionsOf names name).Nodup :=
  List.nodup_range.filter _

/-- One name more at the end of a list is one position more for this name. -/
theorem positionsOf_concat (names : List String) (last name : String) :
    positionsOf (names ++ [last]) name =
      positionsOf names name ++ (if last = name then [names.length] else []) := by
  have hearlier : ∀ i ∈ List.range names.length,
      decide ((names ++ [last])[i]? = some name) = decide (names[i]? = some name) := by
    intro i hi
    rw [List.getElem?_append_left (List.mem_range.1 hi)]
  simp only [positionsOf, List.length_append, List.length_singleton, List.range_succ,
    List.filter_append, List.filter_congr hearlier]
  by_cases hsame : last = name
  · simp [hsame]
  · simp [hsame]

def withMethods (ms : List Method) (s : Struct) : Struct :=
  { s with methods := s.methods ++ ms }

@[simp] theorem name_withMethods (ms : List Method) (s : Struct) :
    (withMethods ms s).name = s.name := rfl

@[simp] theorem methods_withMethods (ms : List Method) (s : Struct) :
    (withMethods ms s).methods = s.methods ++ ms := rfl

@[simp] theorem withMethods_nil (s : Struct) : withMethods [] s = s := by
  simp [withMethods]

@[simp] theorem withMethods_withMethods (ms ms' : List Method) (s : Struct) :
    withMethods ms' (withMethods ms s) = withMethods (ms ++ ms') s := by
  simp [withMethods]

/-! ## What the index says -/

namespace NameIndex

/-- The index has for each name in the list all its positions, and nothing for other names. -/
def Locates (index : NameIndex) (names : List String) : Prop :=
  ∀ name, index.positions? name =
    if name ∈ names then some (positionsOf names name) else none

theorem positions?_nil (name : String) : NameIndex.positions? [] name = none := rfl

theorem positions?_cons (key : String) (known : List Nat) (rest : NameIndex) (name : String) :
    NameIndex.positions? ((key, known) :: rest) name =
      if key = name then some known else NameIndex.positions? rest name := by
  by_cases hsame : key = name
  · simp [positions?, hsame]
  · have hother : (name == key) = false := by simpa using Ne.symm hsame
    simp [positions?, List.lookup_cons, hsame, hother]

/-- A new position is the last one of its name, and other names keep theirs. -/
theorem positions?_add (index : NameIndex) (name other : String) (position : Nat) :
    (index.add name position).positions? other =
      if name = other then some ((index.positions? name).getD [] ++ [position])
      else index.positions? other := by
  -- The entry is changed where it stands, or added at the end.
  induction index with
  | nil => simp only [add, positions?_cons, positions?_nil, Option.getD_none, List.nil_append]
  | cons entry rest ih =>
      rcases entry with ⟨key, known⟩
      by_cases hfound : key = name
      · subst hfound
        by_cases hsame : key = other <;> simp [add, positions?_cons, hsame]
      · by_cases hsame : key = other
        · subst hsame
          simp [add, positions?_cons, hfound, Ne.symm hfound]
        · simp [add, positions?_cons, hfound, hsame, ih]

/-- The index of a list with one name more. -/
theorem Locates.add {index : NameIndex} {names : List String} (h : index.Locates names)
    (name : String) : (index.add name names.length).Locates (names ++ [name]) := by
  intro other
  rw [positions?_add, positionsOf_concat, h name, h other]
  by_cases hsame : name = other
  · subst hsame
    by_cases hmem : name ∈ names
    · simp [hmem]
    · have hnone : positionsOf names name = [] := positionsOf_eq_nil hmem
      simp [hmem, hnone]
  · simp [hsame, Ne.symm hsame]

end NameIndex

/-- The index says of each name where the structs of this name stand. -/
theorem locates_structIndex (structs : List Struct) :
    (structIndex structs).Locates (structs.map (·.name)) := by
  induction structs using List.reverseRecOn with
  | nil =>
      intro name
      simp [structIndex, NameIndex.positions?]
  | append_singleton structs s ih =>
      have hlast : structIndex (structs ++ [s]) =
          (structIndex structs).add s.name (structs.map (·.name)).length := by
        simp [structIndex, List.zipIdx_append]
      rw [hlast, List.map_append]
      exact ih.add s.name

/-! ## Adding a method -/

section Attach

variable {m : Method} {structs : List Struct}

/-- A method is added where its position is listed, and nothing else changes. -/
theorem getElem?_attach {targets : List Nat} (hnodup : targets.Nodup) (i : Nat) :
    (attach m targets structs)[i]? =
      structs[i]?.map fun s => withMethods (if i ∈ targets then [m] else []) s := by
  -- Each position is modified once, since no position comes twice.
  induction targets generalizing structs with
  | nil => simp [attach]
  | cons position targets ih =>
      rcases List.nodup_cons.1 hnodup with ⟨hfirst, hlater⟩
      have hrest : attach m (position :: targets) structs =
          attach m targets (push m structs position) := rfl
      rw [hrest, ih hlater, push, List.getElem?_modify]
      by_cases hhere : position = i
      · subst hhere
        cases structs[position]? <;> simp [hfirst, withMethods]
      · simp [hhere, Ne.symm hhere]

theorem names_push (position : Nat) :
    (push m structs position).map (·.name) = structs.map (·.name) := by
  refine List.ext_getElem? ?_
  intro i
  rw [List.getElem?_map, List.getElem?_map, push, List.getElem?_modify]
  by_cases hhere : position = i <;> cases structs[i]? <;> simp [hhere]

/-- Adding methods renames no struct. -/
@[simp] theorem names_attach (targets : List Nat) :
    (attach m targets structs).map (·.name) = structs.map (·.name) := by
  induction targets generalizing structs with
  | nil => rfl
  | cons position targets ih =>
      have hrest : (attach m targets (push m structs position)).map (·.name) =
          (push m structs position).map (·.name) := ih
      exact hrest.trans (names_push position)

/-- The index stays right for the rest of the pass when a method has been added. -/
theorem NameIndex.Locates.attach {index : NameIndex} (h : index.Locates (structs.map (·.name)))
    (m : Method) (targets : List Nat) :
    index.Locates ((attach m targets structs).map (·.name)) := by
  rwa [names_attach]

/-- Adding a method at the positions of its owner's name adds it once to each struct of this name. -/
theorem attach_positionsOf (m : Method) (structs : List Struct) :
    attach m (positionsOf (structs.map (·.name)) m.owner) structs =
      structs.map fun s => withMethods (if s.name = m.owner then [m] else []) s := by
  refine List.ext_getElem? ?_
  intro i
  rw [getElem?_attach (positionsOf_nodup _ _), List.getElem?_map]
  cases hs : structs[i]? with
  | none => rfl
  | some s => simp [mem_positionsOf_iff, hs]

end Attach

end Extract
end GoSurvey
