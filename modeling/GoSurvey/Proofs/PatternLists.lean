import GoSurvey.Proofs.OverlappingPatterns
import Mathlib.Data.List.Nodup

/-!
# Lists of patterns put together

The load of a list of patterns remembers the directories that it has looked at, whether they gave a
package or not. So what a list loads does not stand by itself once other patterns come before it.
This file compares the two.

* `Load.lookedAt` — the directories that a load of patterns looks at;
* `Load.packages_of_subset`, `Load.patterns_of_subset` — a load that starts with more directories
  visited leaves out the packages of these, and is otherwise the same;
* `Load.patterns_append` — the load of one list and then of another;
* `Load.nodup_dirs_patterns` — no directory gives two packages;
* `Load.roots_append_eq_filter` — the load of two lists put together, from the loads of both.
-/

namespace GoSurvey
namespace Load

open Text Outcome

variable {t : FileTree} {excludes : ExcludeSet} {includeTests : Bool} {root : Location}

/-! ## Directories that are looked at -/

def lookedAt (t : FileTree) (excludes : ExcludeSet) (texts : List String) : List Location :=
  texts.flatMap fun text =>
    match rootOf t text with
    | .ok root => candidates t excludes (Pattern.ofText text).recursive root
    | .error _ => []

/-- A list looks at what its first pattern reaches, then at what the rest does. -/
theorem lookedAt_cons {text : String} (hroot : rootOf t text = .ok root) (rest : List String) :
    lookedAt t excludes (text :: rest) =
      candidates t excludes (Pattern.ofText text).recursive root ++ lookedAt t excludes rest := by
  simp [lookedAt, hroot]

/-! ## Starting with more directories visited -/

section Pass

variable {visited visited' more dirs : List Location} {dir : Location}
  {found : List LoadedPackage}

/-- The package of a directory stays or goes with the directory. -/
theorem filter_toList_package {result : Option LoadedPackage}
    (h : package t excludes includeTests root dir = .ok result) :
    (result.toList.filter fun p => p.dir ∉ more) = if dir ∈ more then [] else result.toList := by
  cases result with
  | none => simp
  | some p =>
      rw [← dir_of_package_eq_ok h]
      by_cases hmore : p.dir ∈ more
      · simp [hmore]
      · simp [hmore]

/-- What is found after a directory has been visited lies in other directories. -/
theorem filter_dir_of_packages_eq_ok
    (h : packages t excludes includeTests root (dir :: visited) dirs = .ok (found, visited')) :
    (found.filter fun p => p.dir ∉ dir :: more) = found.filter fun p => p.dir ∉ more := by
  refine List.filter_congr ?_
  intro p hp
  have hother := ((pass_of_packages_eq_ok h).mem_dirs p.dir).1 (List.mem_map_of_mem hp)
  have hne : p.dir ≠ dir := fun heq => hother.2.1 (heq ▸ List.mem_cons_self)
  simp [hne]

/-- A pass that starts with more directories visited leaves out the packages of these. -/
theorem packages_of_subset (hmore : visited ⊆ more)
    (h : packages t excludes includeTests root visited dirs = .ok (found, visited')) :
    ∃ more', visited' ⊆ more' ∧
      packages t excludes includeTests root more dirs =
        .ok (found.filter fun p => p.dir ∉ more, more') := by
  induction dirs generalizing visited more found with
  | nil =>
      cases h
      exact ⟨more, hmore, rfl⟩
  | cons dir rest ih =>
      by_cases hvisited : dir ∈ visited
      · rw [packages_cons_of_mem hvisited] at h
        rw [packages_cons_of_mem (hmore hvisited)]
        -- Visited in both runs.
        exact ih hmore h
      · rcases (packages_cons_eq_ok_iff hvisited).1 h with ⟨result, later, hresult, hlater, rfl⟩
        rw [List.filter_append, filter_toList_package hresult]
        by_cases hdir : dir ∈ more
        · -- Visited here only by the longer list: its package, if there is one, is missing.
          rcases ih (List.cons_subset.2 ⟨hdir, hmore⟩) hlater with ⟨more', hsub, hrest⟩
          rw [packages_cons_of_mem hdir, if_pos hdir]
          exact ⟨more', hsub, hrest⟩
        · rcases ih (List.cons_subset_cons dir hmore) hlater with ⟨more', hsub, hrest⟩
          rw [filter_dir_of_packages_eq_ok hlater] at hrest
          rw [if_neg hdir]
          exact ⟨more', hsub, (packages_cons_eq_ok_iff hdir).2 ⟨result, _, hresult, hrest, rfl⟩⟩

end Pass

/-- A load that starts with more directories visited leaves out the packages of these. -/
theorem patterns_of_subset {visited more : List Location} {texts : List String}
    {found : List LoadedPackage} (hmore : visited ⊆ more)
    (h : patterns t excludes includeTests visited texts = .ok found) :
    patterns t excludes includeTests more texts = .ok (found.filter fun p => p.dir ∉ more) := by
  induction texts generalizing visited more found with
  | nil =>
      cases h
      rfl
  | cons text rest ih =>
      rcases patterns_cons_eq_ok_iff.1 h with
        ⟨root, here, visited', later, hroot, hhere, hlater, rfl⟩
      rcases packages_of_subset hmore hhere with ⟨more', hsub, hhere'⟩
      refine patterns_cons_eq_ok_iff.2 ⟨root, _, more', _, hroot, hhere', ih hsub hlater, ?_⟩
      -- What is found later lies in none of the directories of the first pattern.
      have hsame : (later.filter fun p => p.dir ∉ more') = later.filter fun p => p.dir ∉ more := by
        refine List.filter_congr ?_
        intro p hp
        have hnot : p.dir ∉ visited' :=
          ((mem_dirs_patterns_iff hlater p.dir).1 (List.mem_map_of_mem hp)).1
        have hdirs : p.dir ∉ candidates t excludes (Pattern.ofText text).recursive root :=
          fun hmem => hnot (((pass_of_packages_eq_ok hhere).mem_visited p.dir).2 (Or.inr hmem))
        simp [(pass_of_packages_eq_ok hhere').mem_visited, hdirs]
      rw [List.filter_append, hsame]

/-! ## One list after another -/

/-- The load of a list goes on with the patterns after it from the directories that it has looked
at. -/
theorem patterns_append {visited : List Location} {texts : List String}
    {found : List LoadedPackage}
    (h : patterns t excludes includeTests visited texts = .ok found) :
    ∃ visited', (∀ dir, dir ∈ visited' ↔ dir ∈ visited ∨ dir ∈ lookedAt t excludes texts) ∧
      ∀ after later, patterns t excludes includeTests visited' after = .ok later →
        patterns t excludes includeTests visited (texts ++ after) = .ok (found ++ later) := by
  induction texts generalizing visited found with
  | nil =>
      cases h
      exact ⟨visited, by simp [lookedAt], fun after later hlater => hlater⟩
  | cons text rest ih =>
      rcases patterns_cons_eq_ok_iff.1 h with
        ⟨root, here, next, found', hroot, hhere, hfound', rfl⟩
      rcases ih hfound' with ⟨visited', hmem, hafter⟩
      refine ⟨visited', ?_, ?_⟩
      · intro dir
        rw [hmem, (pass_of_packages_eq_ok hhere).mem_visited, lookedAt_cons hroot, List.mem_append,
          or_assoc]
      · intro after later hlater
        exact patterns_cons_eq_ok_iff.2
          ⟨root, here, next, _, hroot, hhere, hafter after later hlater, List.append_assoc ..⟩

/-- No directory gives two packages. -/
theorem nodup_dirs_patterns {visited : List Location} {texts : List String}
    {found : List LoadedPackage}
    (h : patterns t excludes includeTests visited texts = .ok found) :
    (found.map (·.dir)).Nodup := by
  induction texts generalizing visited found with
  | nil =>
      cases h
      exact List.nodup_nil
  | cons text rest ih =>
      rcases patterns_cons_eq_ok_iff.1 h with
        ⟨root, here, visited', later, hroot, hhere, hlater, rfl⟩
      -- Within one pattern the directories are distinct already.
      have hpass := pass_of_packages_eq_ok hhere
      rw [List.map_append]
      refine hpass.nodup_dirs.append (ih hlater) ?_
      -- What the first pattern found is visited, and later patterns pass over it.
      intro dir hdir hdirLater
      have hvisited : dir ∈ visited' :=
        (hpass.mem_visited dir).2 (Or.inr ((hpass.mem_dirs dir).1 hdir).1)
      exact ((mem_dirs_patterns_iff hlater dir).1 hdirLater).1 hvisited

/-- A pattern reaches nothing that is left unvisited once it has been loaded. -/
theorem not_reaches_of_not_mem_visited {text : String} {dir : Location}
    {visited visited' : List Location}
    {found : List LoadedPackage} (hroot : rootOf t text = .ok root)
    (h : Pass t excludes includeTests root visited
      (candidates t excludes (Pattern.ofText text).recursive root) found visited')
    (hdir : dir ∉ visited') (root' : Location) : ¬ Reaches t excludes text root' dir := by
  rintro ⟨hroot', hmem⟩
  obtain rfl : root = root' := Except.ok.inj (hroot.symm.trans hroot')
  exact hdir ((h.mem_visited dir).2 (Or.inr hmem))

/-- Every package was found in its directory, from the root of the first pattern to reach it. -/
theorem package_of_mem_patterns {visited : List Location} {texts : List String}
    {found : List LoadedPackage} {p : LoadedPackage}
    (h : patterns t excludes includeTests visited texts = .ok found) (hp : p ∈ found) :
    ∃ text root, FirstToReach t excludes texts text root p.dir ∧
      package t excludes includeTests root p.dir = .ok (some p) := by
  induction texts generalizing visited found with
  | nil =>
      cases h
      simp at hp
  | cons first rest ih =>
      rcases patterns_cons_eq_ok_iff.1 h with
        ⟨root, here, visited', later, hroot, hhere, hlater, rfl⟩
      have hpass := pass_of_packages_eq_ok hhere
      rcases List.mem_append.1 hp with hp | hp
      · have hdir := ((hpass.mem_dirs p.dir).1 (List.mem_map_of_mem hp)).1
        exact ⟨first, root, firstToReach_of_reaches ⟨hroot, hdir⟩, hpass.package_eq p hp⟩
      · rcases ih hlater hp with ⟨text, root', hfirst, hpackage⟩
        have hnew := ((mem_dirs_patterns_iff hlater p.dir).1 (List.mem_map_of_mem hp)).1
        exact ⟨text, root', hfirst.cons (not_reaches_of_not_mem_visited hroot hpass hnew), hpackage⟩

/-! ## Loads -/

theorem package_of_mem_roots {texts : List String} {config : Config} {found : List LoadedPackage}
    {p : LoadedPackage} (h : roots t texts config = .ok found) (hp : p ∈ found) :
    ∃ excludes root, package t excludes config.includeTests root p.dir = .ok (some p) := by
  rcases roots_eq_ok_iff.1 h with ⟨excludes, -, hpatterns⟩
  rcases package_of_mem_patterns hpatterns hp with ⟨_, root, -, hpackage⟩
  exact ⟨excludes, root, hpackage⟩

/-- Where two lists of patterns can be loaded, so can the first followed by the second. The packages
are those of the first, and after them, in order and unchanged, those of the second in directories
that were not looked at for the first. No load returns two packages of one directory. -/
theorem roots_append_eq_filter {before after : List String} (hbefore : before ≠ [])
    (hafter : after ≠ []) {config : Config} {first second : List LoadedPackage}
    (hfirst : roots t before config = .ok first) (hsecond : roots t after config = .ok second) :
    (∃ excludes, ExcludeSet.parse config.exclude = .ok excludes ∧
      roots t (before ++ after) config =
        .ok (first ++ second.filter fun p => p.dir ∉ lookedAt t excludes before)) ∧
    ∀ texts config' found, roots t texts config' = .ok found → (found.map (·.dir)).Nodup := by
  refine ⟨?_, ?_⟩
  · rcases (roots_eq_ok_iff_of_ne_nil hbefore).1 hfirst with ⟨excludes, hparse, hfirst⟩
    rcases (roots_eq_ok_iff_of_ne_nil hafter).1 hsecond with ⟨excludes', hparse', hsecond⟩
    obtain rfl : excludes = excludes' := Except.ok.inj (hparse.symm.trans hparse')
    rcases patterns_append hfirst with ⟨visited, hvisited, happend⟩
    -- By itself the second list starts with nothing visited, here with what the first looked at.
    have hlater := patterns_of_subset (List.nil_subset visited) hsecond
    have hsame : (second.filter fun p => p.dir ∉ visited) =
        second.filter fun p => p.dir ∉ lookedAt t excludes before := by
      refine List.filter_congr ?_
      intro p _
      simp [hvisited]
    rw [hsame] at hlater
    have hne : before ++ after ≠ [] := List.append_ne_nil_of_left_ne_nil hbefore after
    exact ⟨excludes, hparse,
      (roots_eq_ok_iff_of_ne_nil hne).2 ⟨excludes, hparse, happend after _ hlater⟩⟩
  · intro texts config' found hload
    rcases roots_eq_ok_iff.1 hload with ⟨excludes, -, hpatterns⟩
    exact nodup_dirs_patterns hpatterns

/-- The directory of the first pattern is the second one of the other: it is not loaded again. -/
theorem roots_append_eq_filter_smallTree :
    ∃ first second, roots smallTree ["b"] {} = .ok first ∧
      roots smallTree ["./..."] {} = .ok second ∧ second.map (·.dir) = [[], [utf8 "b"]] ∧
      ∃ found, roots smallTree ["b", "./..."] {} = .ok found ∧
        found = first ++ second.filter (fun p => p.dir ∉ lookedAt smallTree ⟨[]⟩ ["b"]) ∧
        found.map (·.dir) = [[utf8 "b"], []] ∧ (found.map (·.dir)).Nodup := by
  have hfirst : (roots smallTree ["b"] {}).map (·.map (·.dir)) = .ok [[utf8 "b"]] := rfl
  have hsecond : (roots smallTree ["./..."] {}).map (·.map (·.dir)) = .ok [[], [utf8 "b"]] := rfl
  have hlooked : lookedAt smallTree ⟨[]⟩ ["b"] = [[utf8 "b"]] := rfl
  rcases map_eq_ok_iff.1 hfirst with ⟨first, hload, hdirs⟩
  rcases map_eq_ok_iff.1 hsecond with ⟨second, hload', hdirs'⟩
  rcases roots_append_eq_filter (by simp) (by simp) hload hload' with
    ⟨⟨excludes, hparse, hboth⟩, hnodup⟩
  obtain rfl : excludes = ⟨[]⟩ := (Except.ok.inj hparse).symm
  have hkept : (second.filter fun p => p.dir ∉ lookedAt smallTree ⟨[]⟩ ["b"]).map (·.dir) =
      [[]] := by
    rw [hlooked]
    calc (second.filter fun p => p.dir ∉ [[utf8 "b"]]).map (·.dir)
        = (second.map (·.dir)).filter fun dir => dir ∉ [[utf8 "b"]] := by
            rw [List.filter_map]
            rfl
      _ = [[], [utf8 "b"]].filter fun dir => dir ∉ [[utf8 "b"]] := by rw [hdirs']
      _ = [[]] := by decide
  refine ⟨first, second, hload, hload', hdirs'.symm, _, hboth, rfl, ?_, hnodup _ _ _ hboth⟩
  rw [List.map_append, hkept, ← hdirs]
  rfl

end Load
end GoSurvey
