import Mathlib.Data.List.Nodup
import Mathlib.Data.List.Perm.Subperm
import GoSurvey.ImportAliases

/-!
# The names that a new import path may get

What `ImportAliases.resolve` relies on when it meets a path for the first time.

* `stripVendor_stripVendor` — stripping the vendoring directory twice strips it once, also where two
  occurrences of `/vendor/` share a slash;
* `candidate_eq_nil_or_isGoIdentifier` — every name of the sequence is empty or an identifier;
* `isUsable_candidate` — the names with an `x` at their end are neither blank nor keywords;
* `isFree_firstFree` — the search always ends at a name that is usable and not yet taken.

The search looks at one name with an `x` at its end more than there are bindings, and these names
have different lengths, so that one of them is not bound.
-/

namespace GoSurvey
namespace ImportAliases

open Text

/-! ## The vendoring directory -/

section AfterLast

variable {p s rest : List Char}

theorem dropPrefix?_eq_none_iff : dropPrefix? p s = none ↔ ¬ p <+: s := by
  constructor
  · intro hnone h
    rcases h with ⟨t, ht⟩
    have hsome : dropPrefix? p s = some t := dropPrefix?_eq_some_iff.2 ht.symm
    simp [hnone] at hsome
  · intro hnot
    cases hdrop : dropPrefix? p s with
    | none => rfl
    | some t =>
        exact absurd ⟨t, (dropPrefix?_eq_some_iff.1 hdrop).symm⟩ hnot

theorem afterLast?_eq_none_iff : afterLast? p s = none ↔ ¬ p <:+: s := by
  induction s with
  | nil =>
      rw [afterLast?, dropPrefix?_eq_none_iff]
      simp
  | cons c s ih =>
      rw [afterLast?, Option.or_eq_none_iff, ih, dropPrefix?_eq_none_iff, List.infix_cons_iff]
      tauto

/-- After the last occurrence there is none, even if the occurrences overlap. -/
theorem not_infix_of_afterLast? (hp : p ≠ []) (h : afterLast? p s = some rest) : ¬ p <:+: rest := by
  induction s with
  | nil =>
      have hnil : [] = p ++ rest := dropPrefix?_eq_some_iff.1 h
      exact absurd (List.append_eq_nil_iff.1 hnil.symm).1 hp
  | cons c s ih =>
      rw [afterLast?, Option.or_eq_some_iff] at h
      rcases h with hlater | ⟨hnone, hhere⟩
      · exact ih hlater
      · -- The occurrence takes at least the first character, so the rest is an end of `s`.
        have heq : c :: s = p ++ rest := dropPrefix?_eq_some_iff.1 hhere
        have hend : rest <:+ s := by
          cases p with
          | nil => exact absurd rfl hp
          | cons d p => exact ⟨p, (List.cons.inj heq).2.symm⟩
        intro hin
        exact afterLast?_eq_none_iff.1 hnone (hin.trans hend.isInfix)

end AfterLast

/-- A path outside of vendoring directories stays as it is. -/
theorem stripVendor_of_not_infix {path : String} (h : ¬ "/vendor/".toList <:+: path.toList) :
    stripVendor path = path := by
  have hnone := afterLast?_eq_none_iff.2 h
  simp only [stripVendor, hnone]

/-- A stripped path stands in no vendoring directory. -/
theorem not_infix_stripVendor (path : String) :
    ¬ "/vendor/".toList <:+: (stripVendor path).toList := by
  cases hfound : afterLast? "/vendor/".toList path.toList with
  | none => simpa only [stripVendor, hfound] using afterLast?_eq_none_iff.1 hfound
  | some rest =>
      simpa only [stripVendor, hfound, String.toList_ofList] using
        not_infix_of_afterLast? (by decide) hfound

/-- Stripping twice strips no more than once. -/
@[simp] theorem stripVendor_stripVendor (path : String) :
    stripVendor (stripVendor path) = stripVendor path :=
  stripVendor_of_not_infix (not_infix_stripVendor path)

-- The two occurrences share a slash, and the second one counts.
example : stripVendor "a/vendor/vendor/x" = "x" := by decide

/-! ## Identifiers -/

theorem isGoLetter_lowLine : isGoLetter '_' = true := by
  simp [isGoLetter]

theorem isGoLetter_x : isGoLetter 'x' = true := by
  decide +kernel

theorem isGoIdentifier_cons {c : Char} {s : List Char} :
    isGoIdentifier (c :: s) = true ↔
      isGoLetter c = true ∧ ∀ d ∈ s, isGoLetter d = true ∨ isGoDigit d = true := by
  simp [isGoIdentifier]

theorem isGoIdentifier_append {s t : List Char} (hs : isGoIdentifier s = true)
    (ht : t = [] ∨ isGoIdentifier t = true) : isGoIdentifier (s ++ t) = true := by
  rcases ht with rfl | ht
  · simpa using hs
  · cases s with
    | nil => simp [isGoIdentifier] at hs
    | cons c s =>
        cases t with
        | nil => simp [isGoIdentifier] at ht
        | cons d t =>
            rw [isGoIdentifier_cons] at hs ht
            refine isGoIdentifier_cons.2 ⟨hs.1, ?_⟩
            -- A character of the second identifier may stand anywhere but at the start.
            intro e he
            rcases List.mem_append.1 he with hes | het
            · exact hs.2 e hes
            · rcases List.mem_cons.1 het with rfl | het
              · exact Or.inl ht.1
              · exact ht.2 e het

/-- Pieces that are empty or identifiers make a text that is empty or an identifier. -/
theorem flatMap_eq_nil_or_isGoIdentifier {α : Type} {f : α → List Char} {l : List α}
    (h : ∀ a ∈ l, f a = [] ∨ isGoIdentifier (f a) = true) :
    l.flatMap f = [] ∨ isGoIdentifier (l.flatMap f) = true := by
  induction l with
  | nil => exact Or.inl rfl
  | cons a l ih =>
      have htail := ih fun b hb => h b (List.mem_cons_of_mem a hb)
      rw [List.flatMap_cons]
      rcases h a List.mem_cons_self with hnil | hid
      · simpa [hnil] using htail
      · exact Or.inr (isGoIdentifier_append hid htail)

/-- A sanitized segment is empty or an identifier, whatever the segment was. -/
theorem sanitize_eq_nil_or_isGoIdentifier (segment : List Char) :
    sanitize segment = [] ∨ isGoIdentifier (sanitize segment) = true := by
  cases hdrop : segment.dropWhile isGoDigit with
  | nil => exact Or.inl (by simp [sanitize, hdrop])
  | cons c s =>
      -- Digits at the start are dropped, so a first character that is no letter becomes a low line.
      have hhead : isGoDigit c = false := by
        have hnot := List.head?_dropWhile_not isGoDigit segment
        simpa [hdrop] using hnot
      right
      simp only [sanitize, hdrop, List.map_cons]
      refine isGoIdentifier_cons.2 ⟨?_, ?_⟩
      · by_cases hletter : isGoLetter c = true
        · simp [hletter]
        · simp [hletter, hhead, isGoLetter_lowLine]
      -- Later characters are kept if they can stand in an identifier, and are a low line otherwise.
      · intro d hd
        rcases List.mem_map.1 hd with ⟨e, -, rfl⟩
        by_cases hword : (isGoLetter e || isGoDigit e) = true
        · rw [if_pos hword]
          exact Bool.or_eq_true_iff.1 hword
        · rw [if_neg hword]
          exact Or.inl isGoLetter_lowLine

theorem replicate_eq_nil_or_isGoIdentifier (n : Nat) :
    List.replicate n 'x' = [] ∨ isGoIdentifier (List.replicate n 'x') = true := by
  cases n with
  | zero => exact Or.inl rfl
  | succ n =>
      refine Or.inr (isGoIdentifier_cons.2 ⟨isGoLetter_x, ?_⟩)
      intro d hd
      rw [List.eq_of_mem_replicate hd]
      exact Or.inl isGoLetter_x

/-- Every name of the sequence is empty or an identifier. -/
theorem candidate_eq_nil_or_isGoIdentifier (segs : List (List Char)) (i : Nat) :
    candidate segs i = [] ∨ isGoIdentifier (candidate segs i) = true := by
  have hpath := flatMap_eq_nil_or_isGoIdentifier (l := segs.drop (segs.length - (i + 1)))
    fun s _ => sanitize_eq_nil_or_isGoIdentifier s
  have hmarks := replicate_eq_nil_or_isGoIdentifier (i + 1 - segs.length)
  unfold candidate
  rcases hpath with hnil | hid
  · simpa [hnil] using hmarks
  · exact Or.inr (isGoIdentifier_append hid hmarks)

/-! ## Names with an `x` at the end -/

/-- Behind the names without an `x` added, the sequence goes on with one more each time. -/
theorem candidate_length_add (segs : List (List Char)) (k : Nat) :
    candidate segs (segs.length + k) = segs.flatMap sanitize ++ List.replicate (k + 1) 'x' := by
  have hdrop : segs.length - (segs.length + k + 1) = 0 := by omega
  have hmarks : segs.length + k + 1 - segs.length = k + 1 := by omega
  simp [candidate, hdrop, hmarks]

theorem getLast?_of_mem_keywords : ∀ w ∈ keywords, w.toList.getLast? ≠ some 'x' := by
  decide

/-- An identifier that ends in `x` is neither blank nor a keyword. -/
theorem isUsable_of_getLast? {s : List Char} (hid : isGoIdentifier s = true)
    (hlast : s.getLast? = some 'x') : isUsable s = true := by
  have hblank : s ≠ ['_'] := by
    intro heq
    subst heq
    simp at hlast
  have hkey : String.ofList s ∉ keywords := by
    -- No keyword ends in `x`.
    intro hmem
    have hne := getLast?_of_mem_keywords _ hmem
    simp [hlast] at hne
  simp [isUsable, hid, hblank, hkey]

/-- All names with an `x` added are usable. -/
theorem isUsable_candidate (segs : List (List Char)) (k : Nat) :
    isUsable (candidate segs (segs.length + k)) = true := by
  have hform := candidate_length_add segs k
  have hlast : (candidate segs (segs.length + k)).getLast? = some 'x' := by
    simp [hform, List.getLast?_append, List.getLast?_replicate]
  rcases candidate_eq_nil_or_isGoIdentifier segs (segs.length + k) with hnil | hid
  · simp [hnil] at hlast
  · exact isUsable_of_getLast? hid hlast

/-- The names with an `x` added are different from one another. -/
theorem candidate_length_add_injective (segs : List (List Char)) :
    Function.Injective fun k => String.ofList (candidate segs (segs.length + k)) := by
  intro j k heq
  have hlists := String.ofList_injective heq
  have hlengths := congrArg List.length hlists
  simpa [candidate_length_add] using hlengths

/-! ## The search -/

variable (t : ImportAliases)

/-- A name is free if it is usable and no path bears it. -/
theorem isFree_iff {name : List Char} :
    t.isFree name = true ↔
      isUsable name = true ∧ String.ofList name ∉ t.bindings.map (·.name) := by
  simp [isFree, pathFor?]

/-- Among the names that are looked at one is free. -/
theorem exists_isFree_candidate (segs : List (List Char)) :
    ∃ i < t.searchBound segs, t.isFree (candidate segs i) = true := by
  -- If none were free, the names with an `x` at the end would all be bound. They are different from
  -- one another, and there are more of them than bindings.
  by_contra hnone
  push Not at hnone
  let names := (List.range (t.bindings.length + 1)).map
    fun k => String.ofList (candidate segs (segs.length + k))
  have hdistinct : names.Nodup :=
    List.Nodup.map (candidate_length_add_injective segs) List.nodup_range
  have htaken : names ⊆ t.bindings.map (·.name) := by
    intro name hname
    rcases List.mem_map.1 hname with ⟨k, hk, rfl⟩
    have hbound : segs.length + k < t.searchBound segs := by
      have := List.mem_range.1 hk
      unfold searchBound
      omega
    have hrefused := hnone _ hbound
    rw [Ne, isFree_iff] at hrefused
    by_contra hfree
    exact hrefused ⟨isUsable_candidate segs k, hfree⟩
  have hcount := (hdistinct.subperm htaken).length_le
  simp only [names, List.length_map, List.length_range] at hcount
  omega

/-- The search ends at a usable name that no path bears. -/
theorem isFree_firstFree (segs : List (List Char)) : t.isFree (t.firstFree segs) = true := by
  rcases exists_isFree_candidate t segs with ⟨i, hi, hfree⟩
  unfold firstFree
  cases hfind : ((List.range (t.searchBound segs)).map (candidate segs)).find? t.isFree with
  | some name => simpa using List.find?_some hfind
  | none =>
      have hrefused := List.find?_eq_none.1 hfind (candidate segs i)
        (List.mem_map_of_mem (List.mem_range.2 hi))
      exact absurd hfree hrefused

end ImportAliases
end GoSurvey
