import GoSurvey.Proofs.LoadedPackages
import Mathlib.Data.List.Flatten
import Mathlib.Data.List.Forall2
import Mathlib.Data.List.NodupEquivFin

/-!
# Looser configurations

One configuration is looser than another if it excludes by fewer patterns, and loads tests where the
other does. Two loads of one pattern are compared step by step: the looser one enters every directory
that the other enters, and selects every source that the other selects, so its lists hold those of
the other with more in between.

* `Config.Looser`, `ExcludeSet.Looser` — the order of configurations, and of what they exclude;
* `Load.candidates_sublist`, `Load.sourceNames_sublist` — directories and sources of two loads;
* `LoadedPackage.Within`, `Load.within_of_package_eq_ok` — the packages of one directory;
* `Load.roots_embeds_in_looser` — the packages of one load stand in order among those of the other.
-/

namespace GoSurvey

/-- Whether a configuration leaves out less: its exclude patterns are among those of the other, and
it loads tests if the other does. -/
structure Config.Looser (c' c : Config) : Prop where
  exclude : c'.exclude ⊆ c.exclude
  includeTests : c.includeTests = true → c'.includeTests = true

/-- Whether a package is part of another: it lies in the same directory and has the same import path,
and its files are among those of the other, in order. -/
structure LoadedPackage.Within (p q : LoadedPackage) : Prop where
  dir : p.dir = q.dir
  importPath : p.importPath = q.importPath
  files : p.files.Sublist q.files

/-! ## Exclusion -/

namespace ExcludeSet

def Looser (set' set : ExcludeSet) : Prop :=
  set'.patterns ⊆ set.patterns

variable {set set' : ExcludeSet}

/-- Fewer texts spell fewer patterns. -/
theorem looser_of_parse {texts texts' : List String} (hsub : texts' ⊆ texts)
    (h : parse texts = .ok set) (h' : parse texts' = .ok set') : set'.Looser set := by
  rcases Outcome.map_eq_ok_iff.1 h with ⟨globs, hglobs, rfl⟩
  rcases Outcome.map_eq_ok_iff.1 h' with ⟨globs', hglobs', rfl⟩
  intro glob hglob
  rcases (Outcome.mem_results_iff (Outcome.mapM_eq_ok_iff.1 hglobs')).1 hglob with
    ⟨text, htext, hparse⟩
  exact (Outcome.mem_results_iff (Outcome.mapM_eq_ok_iff.1 hglobs)).2 ⟨text, hsub htext, hparse⟩

/-- What the stricter set lets through the looser one lets through. -/
theorem Looser.excludesPath (h : set'.Looser set) {path : String}
    (hpath : set.excludesPath path = false) : set'.excludesPath path = false := by
  simp only [ExcludeSet.excludesPath, excludes, List.any_eq_false] at hpath ⊢
  intro glob hglob
  exact hpath glob (h hglob)

end ExcludeSet

namespace Load

open Text Outcome

variable {t : FileTree} {excludes excludes' : ExcludeSet} {includeTests includeTests' : Bool}
  {root dir : Location}

/-! ## Directories -/

theorem enters_of_looser (h : excludes'.Looser excludes) {name : Name}
    (henters : enters t excludes root dir name = true) :
    enters t excludes' root dir name = true := by
  simp only [enters, Bool.and_eq_true, Bool.not_eq_true'] at henters ⊢
  exact ⟨henters.1, h.excludesPath henters.2⟩

/-- The walk that bars less finds all that the other finds, in the same order. -/
theorem below_sublist (h : excludes'.Looser excludes) (depth : Nat) (dir : Location) :
    (below t excludes root depth dir).Sublist (below t excludes' root depth dir) := by
  -- A directory that is left out takes everything below it along.
  induction depth generalizing dir with
  | zero => exact List.Sublist.refl []
  | succ depth ih =>
      rw [below, below]
      refine List.Sublist.flatMap_right _ ?_
      intro name _
      by_cases henters : enters t excludes root dir name = true
      · rw [if_pos henters, if_pos (enters_of_looser h henters)]
        exact (ih (dir ++ [name])).cons_cons (dir ++ [name])
      · rw [if_neg henters]
        exact List.nil_sublist _

/-- Fewer exclusions leave the order of the directories as it was. -/
theorem candidates_sublist (h : excludes'.Looser excludes) (recursive : Bool) :
    (candidates t excludes recursive root).Sublist (candidates t excludes' recursive root) := by
  unfold candidates
  refine List.Sublist.cons_cons root ?_
  cases recursive with
  | false => exact List.Sublist.refl []
  | true => exact below_sublist h _ root

/-! ## Sources -/

theorem isGoSourceName_of_imp (htests : includeTests = true → includeTests' = true) {name : Name}
    (hname : Path.isGoSourceName includeTests name = true) :
    Path.isGoSourceName includeTests' name = true := by
  simp only [Path.isGoSourceName, Bool.and_eq_true, Bool.or_eq_true] at hname ⊢
  exact ⟨hname.1, hname.2.imp_left htests⟩

/-- The looser selection of sources holds the other one in order. -/
theorem sourceNames_sublist (h : excludes'.Looser excludes)
    (htests : includeTests = true → includeTests' = true) :
    (sourceNames t excludes includeTests root dir).Sublist
      (sourceNames t excludes' includeTests' root dir) := by
  refine List.monotone_filter_right _ ?_
  intro name hname
  simp only [Bool.and_eq_true, Bool.not_eq_true'] at hname ⊢
  exact ⟨⟨hname.1.1, isGoSourceName_of_imp htests hname.1.2⟩, h.excludesPath hname.2⟩

theorem sources_sublist (h : excludes'.Looser excludes)
    (htests : includeTests = true → includeTests' = true) :
    (sources t excludes includeTests root dir).Sublist
      (sources t excludes' includeTests' root dir) :=
  (sourceNames_sublist h htests).map (dir ++ [·])

/-! ## Packages -/

/-- Where there is a package in a directory, the looser load finds one there too, with at least the
same files and with the same import path. -/
theorem within_of_package_eq_ok (h : excludes'.Looser excludes)
    (htests : includeTests = true → includeTests' = true) {p : LoadedPackage}
    {result : Option LoadedPackage}
    (hp : package t excludes includeTests root dir = .ok (some p))
    (hresult : package t excludes' includeTests' root dir = .ok result) :
    ∃ q, result = some q ∧ p.Within q := by
  have hsources : (sources t excludes includeTests root dir).Sublist
      (sources t excludes' includeTests' root dir) := sources_sublist h htests
  rcases package_eq_ok_iff.1 hp with
    ⟨-, hnone⟩ | ⟨hsome, base, baseImport, way, files, hbase, hway, hfiles, hp⟩
  · simp at hnone
  · cases hp
    rcases package_eq_ok_iff.1 hresult with
      ⟨hnone, -⟩ | ⟨-, base', baseImport', way', files', hbase', hway', hfiles', rfl⟩
    · rw [hnone] at hsources
      exact absurd (List.sublist_nil.1 hsources) hsome
    · -- The root that import paths are counted from does not depend on what is left out.
      obtain ⟨rfl, rfl⟩ : base = base' ∧ baseImport = baseImport' := by
        simpa using hbase.symm.trans hbase'
      obtain rfl : way = way' := Except.ok.inj (hway.symm.trans hway')
      exact ⟨_, rfl, rfl, rfl, results_sublist hsources hfiles hfiles'⟩

/-- The packages found in some directories stand in order among those that the looser load finds in
these and other directories. -/
theorem sublistForall₂_within (h : excludes'.Looser excludes)
    (htests : includeTests = true → includeTests' = true) {dirs dirs' : List Location}
    {results results' : List (Option LoadedPackage)} (hdirs : dirs.Sublist dirs')
    (hresults : List.Forall₂
      (fun dir result => package t excludes includeTests root dir = .ok result) dirs results)
    (hresults' : List.Forall₂
      (fun dir result => package t excludes' includeTests' root dir = .ok result) dirs' results') :
    List.SublistForall₂ LoadedPackage.Within results.reduceOption results'.reduceOption := by
  induction hdirs generalizing results results' with
  | slnil =>
      cases hresults
      exact List.SublistForall₂.nil
  | cons dir _ ih =>
      -- Only the looser load looks at this directory.
      rcases List.forall₂_cons_left_iff.1 hresults' with ⟨result, later, -, hlater, rfl⟩
      cases result with
      | none => simpa using ih hresults hlater
      | some q => simpa using (ih hresults hlater).cons_right
  | cons_cons dir _ ih =>
      rcases List.forall₂_cons_left_iff.1 hresults with ⟨found, rest, hfound, hrest, rfl⟩
      rcases List.forall₂_cons_left_iff.1 hresults' with ⟨result, later, hresult, hlater, rfl⟩
      have hboth := ih hrest hlater
      cases found with
      | none =>
          cases result with
          | none => simpa using hboth
          | some q => simpa using hboth.cons_right
      | some p =>
          rcases within_of_package_eq_ok h htests hfound hresult with ⟨q, rfl, hwithin⟩
          simpa using List.SublistForall₂.cons hwithin hboth

/-! ## Loads -/

/-- Lists of which one stands in order among the other, as a map of indices. -/
theorem exists_orderEmbedding {α β : Type} {R : α → β → Prop} {l : List α} {l' : List β}
    (h : List.SublistForall₂ R l l') :
    ∃ f : Fin l.length ↪o Fin l'.length, ∀ i, R (l.get i) (l'.get (f i)) := by
  rcases List.sublistForall₂_iff.1 h with ⟨kept, hkept, hsub⟩
  rcases List.sublist_iff_exists_fin_orderEmbedding_get_eq.1 hsub with ⟨f, hf⟩
  have hlength : l.length = kept.length := hkept.length_eq
  refine ⟨(Fin.castOrderIso hlength).toOrderEmbedding.trans f, ?_⟩
  intro i
  have hi := (List.forall₂_iff_get.1 hkept).2 i i.isLt (hlength ▸ i.isLt)
  exact hf (Fin.cast hlength i) ▸ hi

/-- Where a pattern can be loaded under two configurations, of which one is looser, the packages of
the other stand in order among those of the looser one: there is a map of their indices that keeps
the order and is injective, such that each package lies in the same directory, has the same import
path, and has its files in order among those of its image. Links may stand in the tree. -/
theorem roots_embeds_in_looser {pattern : String}
    {config config' : Config} (hlooser : config'.Looser config)
    {found found' : List LoadedPackage} (hload : roots t [pattern] config = .ok found)
    (hload' : roots t [pattern] config' = .ok found') :
    ∃ f : Fin found.length ↪o Fin found'.length,
      ∀ i, (found.get i).dir = (found'.get (f i)).dir ∧
        (found.get i).importPath = (found'.get (f i)).importPath ∧
        (found.get i).files.Sublist (found'.get (f i)).files := by
  rcases roots_singleton_eq_ok hload with
    ⟨excludes, root, results, hparse, hroot, hresults, rfl⟩
  rcases roots_singleton_eq_ok hload' with
    ⟨excludes', root', results', hparse', hroot', hresults', rfl⟩
  obtain rfl : root = root' := Except.ok.inj (hroot.symm.trans hroot')
  have hexcludes := ExcludeSet.looser_of_parse hlooser.exclude hparse hparse'
  have hwithin := sublistForall₂_within hexcludes hlooser.includeTests
    (candidates_sublist hexcludes _) hresults hresults'
  rcases exists_orderEmbedding hwithin with ⟨f, hf⟩
  exact ⟨f, fun i => ⟨(hf i).dir, (hf i).importPath, (hf i).files⟩⟩

/-- A tree with a package at the root, a test among its files, and one below it. -/
def testedTree : FileTree :=
  { root := .dir
      [(utf8 "b", .dir [(utf8 "c.go", .file .empty)]), (utf8 "a_test.go", .file .empty),
       (utf8 "a.go", .file .empty)]
    home := [] }

/-- The looser load gains the test of the root and the whole of `b`. -/
theorem roots_embeds_in_looser_testedTree :
    Config.Looser { includeTests := true } { exclude := ["b/*"] } ∧
      ∃ found found', roots testedTree ["..."] { exclude := ["b/*"] } = .ok found ∧
        roots testedTree ["..."] { includeTests := true } = .ok found' ∧
        found.map (fun p => (p.dir, p.files.map (·.path))) = [([], ["a.go"])] ∧
        found'.map (fun p => (p.dir, p.files.map (·.path))) =
          [([], ["a.go", "a_test.go"]), ([utf8 "b"], ["b/c.go"])] ∧
        ∃ f : Fin found.length ↪o Fin found'.length,
          ∀ i, (found.get i).dir = (found'.get (f i)).dir ∧
            (found.get i).importPath = (found'.get (f i)).importPath ∧
            (found.get i).files.Sublist (found'.get (f i)).files := by
  have hlooser : Config.Looser { includeTests := true } { exclude := ["b/*"] } :=
    ⟨List.nil_subset _, fun _ => rfl⟩
  have hload : (roots testedTree ["..."] { exclude := ["b/*"] }).map
      (·.map fun p => (p.dir, p.files.map (·.path))) = .ok [([], ["a.go"])] := by decide +kernel
  have hload' : (roots testedTree ["..."] { includeTests := true }).map
      (·.map fun p => (p.dir, p.files.map (·.path))) =
        .ok [([], ["a.go", "a_test.go"]), ([utf8 "b"], ["b/c.go"])] := by decide +kernel
  rcases map_eq_ok_iff.1 hload with ⟨found, hfound, hdirs⟩
  rcases map_eq_ok_iff.1 hload' with ⟨found', hfound', hdirs'⟩
  exact ⟨hlooser, found, found', hfound, hfound', hdirs.symm, hdirs'.symm,
    roots_embeds_in_looser hlooser hfound hfound'⟩

end Load
end GoSurvey
