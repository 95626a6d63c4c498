import GoSurvey.Proofs.PackageContents
import GoSurvey.Proofs.PackageWalk

/-!
# The packages of a pattern

A successful load of one pattern, described by the tree alone.

* `Load.roots_eq_ok_iff`, `Load.patterns_cons_eq_ok_iff` — a load is a run over its patterns;
* `Load.roots_singleton_eq_ok` — the load looks at each directory of the pattern in turn;
* `Load.map_dir_reduceOption` — the directories with sources are those of the packages;
* `Load.ReadAt` — that a file is what stands at a location;
* `Load.roots_loads_selected_sources` — the packages are the directories with selected sources, and
  their files are these sources, both in increasing order.
-/

namespace GoSurvey
namespace Load

open Text Outcome

variable {t : FileTree} {excludes : ExcludeSet} {includeTests : Bool} {root dir : Location}

/-! ## Runs over patterns -/

/-- A load is a run over the patterns from an empty list of visited directories. -/
theorem roots_eq_ok_iff {texts : List String} {config : Config} {found : List LoadedPackage} :
    roots t texts config = .ok found ↔
      ∃ excludes, ExcludeSet.parse config.exclude = .ok excludes ∧
        patterns t excludes config.includeTests []
          (if texts.isEmpty then Pattern.defaults else texts) = .ok found := by
  unfold roots
  cases ExcludeSet.parse config.exclude with
  | error e => simp
  | ok excludes => simp

theorem roots_eq_ok_iff_of_ne_nil {texts : List String} (htexts : texts ≠ []) {config : Config}
    {found : List LoadedPackage} :
    roots t texts config = .ok found ↔
      ∃ excludes, ExcludeSet.parse config.exclude = .ok excludes ∧
        patterns t excludes config.includeTests [] texts = .ok found := by
  have hempty : texts.isEmpty = false := by simpa using htexts
  simp [roots_eq_ok_iff, hempty]

/-- The directories that the first pattern visits stay visited for the rest. -/
theorem patterns_cons_eq_ok_iff {visited : List Location} {text : String} {rest : List String}
    {found : List LoadedPackage} :
    patterns t excludes includeTests visited (text :: rest) = .ok found ↔
      ∃ root here visited' later, rootOf t text = .ok root ∧
        packages t excludes includeTests root visited
          (candidates t excludes (Pattern.ofText text).recursive root) = .ok (here, visited') ∧
        patterns t excludes includeTests visited' rest = .ok later ∧ found = here ++ later := by
  simp only [patterns, bind_eq_ok_iff, pure_eq_ok_iff, Prod.exists]
  constructor
  · rintro ⟨root, hroot, here, visited', hhere, later, hlater, rfl⟩
    exact ⟨root, here, visited', later, hroot, hhere, hlater, rfl⟩
  · rintro ⟨root, here, visited', later, hroot, hhere, hlater, rfl⟩
    exact ⟨root, hroot, here, visited', hhere, later, hlater, rfl⟩

theorem rootOf_eq_ok_iff {text : String} :
    rootOf t text = .ok root ↔
      t.resolvePath? (Pattern.ofText text).path = some root ∧ t.isDir root = true := by
  unfold rootOf
  cases t.resolvePath? (Pattern.ofText text).path with
  | none => simp
  | some found =>
      by_cases hdir : t.isDir found = true
      · simp only [hdir, if_true, Except.ok.injEq, Option.some.injEq]
        exact ⟨fun h => ⟨h, h ▸ hdir⟩, fun h => h.1⟩
      · simp only [hdir, if_false, reduceCtorEq, Option.some.injEq, false_iff, not_and]
        exact fun h => h ▸ hdir

/-! ## One pattern -/

/-- A load of one pattern is one pass over its directories, and nothing was visited before it. -/
theorem roots_singleton_eq_ok_iff {pattern : String} {config : Config}
    {found : List LoadedPackage} :
    roots t [pattern] config = .ok found ↔
      ∃ excludes root visited,
        ExcludeSet.parse config.exclude = .ok excludes ∧ rootOf t pattern = .ok root ∧
        packages t excludes config.includeTests root []
          (candidates t excludes (Pattern.ofText pattern).recursive root) =
            .ok (found, visited) := by
  rw [roots_eq_ok_iff_of_ne_nil (List.cons_ne_nil pattern [])]
  constructor
  · rintro ⟨excludes, hparse, hpatterns⟩
    rcases patterns_cons_eq_ok_iff.1 hpatterns with
      ⟨root, here, visited, later, hroot, hhere, hlater, rfl⟩
    cases hlater
    rw [List.append_nil]
    exact ⟨excludes, root, visited, hparse, hroot, hhere⟩
  · rintro ⟨excludes, root, visited, hparse, hroot, hfound⟩
    exact ⟨excludes, hparse, patterns_cons_eq_ok_iff.2
      ⟨root, found, visited, [], hroot, hfound, rfl, (List.append_nil found).symm⟩⟩

/-- A load of one pattern looks at its directories in turn, and returns what it finds. -/
theorem roots_singleton_eq_ok {pattern : String} {config : Config}
    {found : List LoadedPackage} (h : roots t [pattern] config = .ok found) :
    ∃ excludes root results,
      ExcludeSet.parse config.exclude = .ok excludes ∧ rootOf t pattern = .ok root ∧
      List.Forall₂ (fun dir result => package t excludes config.includeTests root dir = .ok result)
        (candidates t excludes (Pattern.ofText pattern).recursive root) results ∧
      found = results.reduceOption := by
  rcases roots_singleton_eq_ok_iff.1 h with ⟨excludes, root, visited, hparse, hroot, hpass⟩
  -- No directory comes twice, so that none of them is passed over.
  rw [packages_eq_mapM (candidates_nodup _), unvisited_nil, map_eq_ok_iff] at hpass
  rcases hpass with ⟨results, hresults, hpair⟩
  cases hpair
  exact ⟨excludes, root, results, hparse, hroot, mapM_eq_ok_iff.1 hresults, rfl⟩

/-! ## The directories of packages -/

theorem dir_of_package_eq_ok {p : LoadedPackage}
    (h : package t excludes includeTests root dir = .ok (some p)) : p.dir = dir := by
  rcases package_eq_ok_iff.1 h with ⟨-, hnone⟩ | ⟨-, base, baseImport, way, files, -, -, -, hsome⟩
  · simp at hnone
  · cases hsome
    rfl

/-- The packages found in directories are those of the directories that have sources. -/
theorem map_dir_reduceOption {dirs : List Location} {results : List (Option LoadedPackage)}
    (h : List.Forall₂ (fun dir result => package t excludes includeTests root dir = .ok result)
      dirs results) :
    results.reduceOption.map (·.dir) =
      dirs.filter fun dir => sourceNames t excludes includeTests root dir ≠ [] := by
  -- A directory gives a package unless it has no source.
  induction h with
  | nil => rfl
  | @cons dir result dirs results hfirst _ ih =>
      rcases package_eq_ok_iff.1 hfirst with ⟨hnone, rfl⟩ | ⟨hsome, _, _, _, _, -, -, -, rfl⟩
      · have hnames : sourceNames t excludes includeTests root dir = [] := by
          simpa [sources_eq_map] using hnone
        simpa [hnames] using ih
      · have hnames : sourceNames t excludes includeTests root dir ≠ [] := by
          simpa [sources_eq_map] using hsome
        simpa [hnames] using ih

/-- Every package of the load is the result for its own directory. -/
theorem package_dir_of_mem {dirs : List Location} {results : List (Option LoadedPackage)}
    (h : List.Forall₂ (fun dir result => package t excludes includeTests root dir = .ok result)
      dirs results) {p : LoadedPackage} (hp : p ∈ results.reduceOption) :
    package t excludes includeTests root p.dir = .ok (some p) := by
  have hmem : some p ∈ results := List.reduceOption_mem_iff.1 hp
  induction h with
  | nil => simp at hmem
  | @cons dir result dirs results hfirst _ ih =>
      rcases List.mem_cons.1 hmem with rfl | hrest
      · have hdir := dir_of_package_eq_ok hfirst
        simpa [hdir] using hfirst
      · exact ih (List.reduceOption_mem_iff.2 hrest) hrest

/-! ## The files of a package -/

/-- That a file holds the text of what stands at a location, what was read from the text, and the
path to the location from a base. -/
def ReadAt (t : FileTree) (base loc : Location) (f : LoadedFile) : Prop :=
  (∃ content, t.root.at? loc = some (.file content) ∧ String.fromUTF8? content = some f.content) ∧
    f.outline = Source.File.parse f.content ∧
    utf8 f.path = joinWith Path.slash (loc.drop base.length)

/-- A file that was loaded is at its place in the tree, with its content as text. -/
theorem readAt_of_file_eq_ok (hfree : t.root.isLinkFree = true) {base loc : Location}
    {f : LoadedFile} (h : file t base loc = .ok f) : ReadAt t base loc f := by
  rcases file_eq_ok_iff.1 h with ⟨hread, hpath, houtline⟩
  exact ⟨(FileTree.read?_eq_some_iff hfree).1 hread, houtline,
    ((relative_eq_ok_iff hfree).1 hpath).2⟩

/-- The files of a package are its directory's sources, each read where it stands. -/
theorem files_of_package_eq_ok (hfree : t.root.isLinkFree = true) {p : LoadedPackage}
    (h : package t excludes includeTests root dir = .ok (some p)) :
    ∃ base, base <+: dir ∧
      List.Forall₂ (fun name f => ReadAt t base (dir ++ [name]) f)
        (sourceNames t excludes includeTests root dir) p.files := by
  rcases package_eq_ok_iff.1 h with ⟨-, hnone⟩ | ⟨-, base, _, way, files, -, hway, hfiles, hsome⟩
  · simp at hnone
  · cases hsome
    refine ⟨base, ((relative_eq_ok_iff hfree).1 hway).1, ?_⟩
    rw [sources_eq_map, List.forall₂_map_left_iff] at hfiles
    exact hfiles.imp fun name f hfile => readAt_of_file_eq_ok hfree hfile

/-! ## The load -/

/-- In a tree without links, and with names that are texts, a load of one pattern returns one
package for each candidate that holds a selected source, in the order of their directories. The
files of a package are the selected sources of its directory in the order of their names. -/
theorem roots_loads_selected_sources (hfree : t.root.isLinkFree = true)
    (htext : t.root.namesAreText = true) {pattern : String} {config : Config}
    {found : List LoadedPackage} (hload : roots t [pattern] config = .ok found) :
    ∃ excludes root,
      ExcludeSet.parse config.exclude = .ok excludes ∧
      t.resolvePath? (Pattern.ofText pattern).path = some root ∧ t.isDir root = true ∧
      (found.map (·.dir)).Pairwise Location.Before ∧
      (∀ dir, dir ∈ found.map (·.dir) ↔
        Candidate t excludes (Pattern.ofText pattern).recursive root dir ∧
          ∃ name, Selected t excludes config.includeTests root dir name) ∧
      ∀ p ∈ found, ∃ base names,
        base <+: p.dir ∧ names.Pairwise Name.Before ∧
        (∀ name, name ∈ names ↔ Selected t excludes config.includeTests root p.dir name) ∧
        List.Forall₂ (fun name f => ReadAt t base (p.dir ++ [name]) f) names p.files := by
  rcases roots_singleton_eq_ok hload with
    ⟨excludes, root, results, hparse, hrootOf, hresults, rfl⟩
  rcases rootOf_eq_ok_iff.1 hrootOf with ⟨hpath, hdir⟩
  have hdirs := map_dir_reduceOption hresults
  refine ⟨excludes, root, hparse, hpath, hdir, ?_, ?_, ?_⟩
  · rw [hdirs]
    exact (candidates_increasing _).filter _
  · intro dir
    rw [hdirs, List.mem_filter, mem_candidates_iff hfree hdir]
    simp only [decide_eq_true_eq, sourceNames_ne_nil_iff hfree htext]
  · intro p hp
    have hpackage := package_dir_of_mem hresults hp
    rcases files_of_package_eq_ok hfree hpackage with ⟨base, hbase, hfiles⟩
    exact ⟨base, sourceNames t excludes config.includeTests root p.dir, hbase,
      sourceNames_increasing, fun name => mem_sourceNames_iff hfree htext, hfiles⟩

/-- A tree with a package at the root and one below it. The other Go files are tests or vendored.
-/
def smallTree : FileTree :=
  { root := .dir
      [(utf8 "b", .dir [(utf8 "z.go", .file .empty), (utf8 "c.go", .file .empty)]),
       (utf8 "vendor", .dir [(utf8 "d.go", .file .empty)]),
       (utf8 "a_test.go", .file .empty),
       (utf8 "a.go", .file .empty)]
    home := [] }

/-- The load of the whole tree finds its root and `b`, in this order. -/
theorem roots_loads_smallTree :
    smallTree.root.isLinkFree = true ∧ smallTree.root.namesAreText = true ∧
      ∃ found, roots smallTree ["./..."] {} = .ok found ∧
        found.map (·.dir) = [[], [utf8 "b"]] ∧
        (found.map (·.dir)).Pairwise Location.Before ∧
        ∀ dir, dir ∈ found.map (·.dir) ↔
          Candidate smallTree ⟨[]⟩ true [] dir ∧ ∃ name, Selected smallTree ⟨[]⟩ false [] dir name := by
  have hfree : smallTree.root.isLinkFree = true := by decide
  have htext : smallTree.root.namesAreText = true := by decide
  have hok : (roots smallTree ["./..."] {}).map (·.map (·.dir)) = .ok [[], [utf8 "b"]] := rfl
  have hhome : smallTree.resolvePath? (Pattern.ofText "./...").path = some [] := rfl
  have hrecursive : (Pattern.ofText "./...").recursive = true := rfl
  refine ⟨hfree, htext, ?_⟩
  cases hload : roots smallTree ["./..."] {} with
  | error e => simp [hload, Except.map] at hok
  | ok found =>
      have hfound : found.map (·.dir) = [[], [utf8 "b"]] := by
        simpa [hload, Except.map] using hok
      rcases roots_loads_selected_sources hfree htext hload with
        ⟨excludes, root, hparse, hroot, -, hincreasing, hdirs, -⟩
      -- The set and the root the theorem gives are those of this load.
      have hnone : excludes = ⟨[]⟩ := (Except.ok.inj hparse).symm
      have hhere : root = [] := Option.some.inj (hroot.symm.trans hhome)
      subst hnone hhere
      rw [hrecursive] at hdirs
      exact ⟨found, rfl, hfound, hincreasing, hdirs⟩

end Load
end GoSurvey
