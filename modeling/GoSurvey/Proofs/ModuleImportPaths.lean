import GoSurvey.Proofs.LoadFailures

/-!
# Import paths in modules

The import path of a package is made of a module's path and the way from there to the package's
directory. In a tree without links this file says which module that is and how the two are joined.

* `ImportPathBelow` — how the import path of a directory continues that of one above it;
* `importPathBelow_join` — joining a way to an import path does so;
* `Load.countedFrom_of_package` — the parts of a package that are counted from a directory above it;
* `Load.importPath_counts_from_nearest_module` — packages are counted from the nearest module, or
  from the scanned root where there is none.
-/

namespace GoSurvey

open Text

/-! ## The way to a directory -/

/-- Whether `path` is the import path of a directory, when a directory above it has the import path
`base` and `way` leads from there to it: slashes at the end of `base` give way to a single one. -/
def ImportPathBelow (base : String) (way : List Name) (path : String) : Prop :=
  (way = [] ∧ path = base) ∨
    (way ≠ [] ∧ ∃ stem slashes rest, base = stem ++ slashes ∧ (∀ c ∈ slashes.toList, c = '/') ∧
      stem.toList.getLast? ≠ some '/' ∧ utf8 rest = joinWith Path.slash way ∧
      path = stem ++ "/" ++ rest)

theorem getLast?_dropEndWhile_ne {c : Char} (s : List Char) :
    (dropEndWhile (· == c) s).getLast? ≠ some c := by
  intro hlast
  have hstop := List.head?_dropWhile_not (· == c) s.reverse
  rw [dropEndWhile, List.getLast?_reverse] at hlast
  simp [hlast] at hstop

/-- The import path is the trimmed base before the way, or the base itself where there is no way. -/
theorem importPathBelow_join {base rest : String} {way : List Name} (hbase : base ≠ "")
    (hnames : ∀ name ∈ way, name ≠ []) (hrest : utf8 rest = joinWith Path.slash way) :
    ImportPathBelow base way (joinImportPath base rest) := by
  by_cases hway : way = []
  · subst hway
    have hhere : rest = "" := utf8_inj.1 hrest
    exact Or.inl ⟨rfl, by rw [hhere]; rfl⟩
  -- A way that has names is not the empty text, as no name is empty.
  · have hsome : rest ≠ "" := by
      rintro rfl
      rcases joinWith_eq_nil hrest.symm with hnil | hone
      · exact hway hnil
      · exact hnames [] (by simp [hone]) rfl
    rcases exists_dropEndWhile_append (· == '/') base.toList with ⟨slashes, hsplit, hslashes⟩
    refine Or.inr ⟨hway, String.ofList (dropEndWhile (· == '/') base.toList),
      String.ofList slashes, rest, ?_, ?_, ?_, hrest, ?_⟩
    · rw [← String.toList_inj]
      simpa using hsplit
    · intro c hc
      simpa using hslashes c (by simpa using hc)
    · rw [String.toList_ofList]
      exact getLast?_dropEndWhile_ne base.toList
    · simp [joinImportPath, hsome, hbase]

/-- A module file never declares the empty path. -/
theorem GoModule.path?_ne_empty {text path : String} (h : GoModule.path? text = some path) :
    path ≠ "" := by
  unfold path? at h
  rcases Option.map_eq_some_iff.1 h with ⟨chars, hchars, rfl⟩
  rcases List.exists_of_findSome?_eq_some hchars with ⟨line, -, hline⟩
  unfold readLine? at hline
  split at hline
  next => simp at hline
  next rest =>
    have hsome : chars ≠ [] := by grind
    simpa using hsome

namespace Load

open Outcome

variable {t : FileTree} {excludes : ExcludeSet} {includeTests : Bool} {root dir base : Location}

/-! ## Packages -/

theorem exists_importRoot_of_package {p : LoadedPackage}
    (h : package t excludes includeTests root dir = .ok (some p)) :
    ∃ base, importRoot t root dir = .ok base := by
  rcases package_eq_ok_iff.1 h with ⟨-, hnone⟩ | ⟨-, base, baseImport, _, _, hbase, -⟩
  · simp at hnone
  · exact ⟨(base, baseImport), hbase⟩

/-- Whether a package is counted from a directory of which the path for imports is `baseImport`: so
is its own, and so are the paths of its files, which stand in its directory under the given names. -/
def CountedFrom (t : FileTree) (base : Location) (baseImport : String) (names : List Name)
    (p : LoadedPackage) : Prop :=
  ∃ way, p.dir = base ++ way ∧ ImportPathBelow baseImport way p.importPath ∧
    List.Forall₂ (fun name f => ReadAt t base (p.dir ++ [name]) f) names p.files

section LinkFree

variable (hfree : t.root.isLinkFree = true)

include hfree

/-- The directory of a package is in the tree. -/
theorem exists_at?_of_package {p : LoadedPackage}
    (h : package t excludes includeTests root dir = .ok (some p)) :
    ∃ n, t.root.at? dir = some n := by
  rcases package_eq_ok_iff.1 h with ⟨-, hnone⟩ | ⟨hsources, -⟩
  · simp at hnone
  · rcases exists_target_of_sources hsources with ⟨target, n, htarget, hat⟩
    obtain rfl := FileTree.eq_of_resolve? hfree htarget
    exact ⟨n, hat⟩


/-- What is told of a package is told as seen from where import paths are counted. -/
theorem countedFrom_of_package {p : LoadedPackage} {baseImport : String}
    (h : package t excludes includeTests root dir = .ok (some p))
    (hbase : importRoot t root dir = .ok (base, baseImport)) (hsome : baseImport ≠ "") :
    CountedFrom t base baseImport (sourceNames t excludes includeTests root dir) p := by
  rcases exists_at?_of_package hfree h with ⟨n, hat⟩
  rcases package_eq_ok_iff.1 h with
    ⟨-, hnone⟩ | ⟨-, base', _, rest, files, hbase', hrest, hfiles, hp⟩
  · simp at hnone
  · cases hp
    obtain ⟨rfl, rfl⟩ : base = base' ∧ _ := by simpa using hbase.symm.trans hbase'
    rcases (relative_eq_ok_iff hfree).1 hrest with ⟨⟨way, rfl⟩, hway⟩
    rw [List.drop_left] at hway
    rw [sources_eq_map, List.forall₂_map_left_iff] at hfiles
    refine ⟨way, rfl, importPathBelow_join hsome ?_ hway, ?_⟩
    · intro name hname
      exact (Node.isPiece_of_mem_at? t.namesArePieces hat name (List.mem_append_right base hname)).1
    · exact hfiles.imp fun name f hfile => readAt_of_file_eq_ok hfree hfile

/-- A package in a module is counted from the module. -/
theorem countedFrom_nearestModule {p : LoadedPackage} {m : Location}
    (h : package t excludes includeTests root dir = .ok (some p))
    (hnearest : NearestModule t dir m) :
    ∃ path, importRoot t root dir = .ok (m, path) ∧ DeclaresModule t m path ∧
      CountedFrom t m path (sourceNames t excludes includeTests root dir) p := by
  rcases importRoot_cases hfree root dir with
    ⟨hnone, -⟩ | ⟨m', path, hnearest', hdeclares, hok⟩ | ⟨hfault, -⟩
  · exact absurd hnearest (hnone m)
  · obtain rfl := hnearest'.unique hnearest
    have hsome : path ≠ "" := by
      rcases hdeclares with ⟨_, _, -, -, hpath⟩
      exact GoModule.path?_ne_empty hpath
    exact ⟨path, hok, hdeclares, countedFrom_of_package hfree h hok hsome⟩
  · rcases exists_importRoot_of_package h with ⟨base, hbase⟩
    exact absurd hfault (not_hasFaultyModule_of_importRoot hfree hbase)

/-- Packages of one module have different import paths if their directories differ. -/
theorem importPath_ne_of_nearestModule {root' dir' m : Location} {p q : LoadedPackage}
    (hp : package t excludes includeTests root dir = .ok (some p))
    (hq : package t excludes includeTests root' dir' = .ok (some q))
    (hnearest : NearestModule t dir m) (hnearest' : NearestModule t dir' m) (hne : dir ≠ dir') :
    p.importPath ≠ q.importPath := by
  rcases countedFrom_nearestModule hfree hp hnearest with ⟨path, hok, hdeclares, -⟩
  rcases countedFrom_nearestModule hfree hq hnearest' with ⟨path', hok', hdeclares', -⟩
  obtain rfl := hdeclares.unique hdeclares'
  rw [ne_eq, importPath_eq_iff_of_importRoot hp hq (hok.trans hok'.symm)]
  rcases exists_at?_of_package hfree hp with ⟨n, hat⟩
  rcases exists_at?_of_package hfree hq with ⟨n', hat'⟩
  simpa [FileTree.resolve?_eq hfree, hat, hat'] using hne

/-- A package in no module is counted from the scanned root, under the name of that directory. -/
theorem countedFrom_root {p : LoadedPackage} {name : Name} (htext : t.root.namesAreText = true)
    (h : package t excludes includeTests root dir = .ok (some p)) (hroot : root <+: dir)
    (hnone : ∀ m, ¬ NearestModule t dir m) (hlast : root.getLast? = some name) :
    ∃ s, utf8 s = name ∧
      CountedFrom t root s (sourceNames t excludes includeTests root dir) p := by
  -- Without a module file the pattern's own directory is counted from, under its last name.
  have hok : importRoot t root dir = .ok (root, lastName root) := by
    rcases importRoot_cases hfree root dir with
      ⟨-, hok⟩ | ⟨m, _, hnearest, -⟩ | ⟨⟨m, _, hnearest, -⟩, -⟩
    · exact hok
    · exact absurd hnearest (hnone m)
    · exact absurd hnearest (hnone m)
  rcases exists_at?_of_package hfree h with ⟨n, hat⟩
  have hmem : name ∈ dir := hroot.subset (List.mem_of_getLast? hlast)
  have hisText := Node.isSome_ofUtf8?_of_mem_at? htext hat name hmem
  rcases Option.isSome_iff_exists.1 hisText with ⟨s, hs⟩
  have hname : utf8 s = name := ofUtf8?_eq_some_iff.1 hs
  have hlastName : lastName root = s := by simp [lastName, hlast, hs]
  have hsome : s ≠ "" := by
    rintro rfl
    exact (Node.isPiece_of_mem_at? t.namesArePieces hat name hmem).1 hname.symm
  rw [hlastName] at hok
  exact ⟨s, hname, countedFrom_of_package hfree h hok hsome⟩

end LinkFree

/-! ## Loads -/

/-- Not being able to tell a path is never why a load fails. -/
theorem not_isPathFault_of_roots (hfree : t.root.isLinkFree = true)
    (htext : t.root.namesAreText = true) {texts : List String} {config : Config} {e : LoadError}
    (h : roots t texts config = .error e) : ¬ e.IsPathFault := by
  unfold roots at h
  cases hparse : ExcludeSet.parse config.exclude with
  | error cause =>
      obtain rfl : LoadError.exclude cause = e := by simpa [hparse] using h
      exact id
  | ok excludes =>
      simp only [hparse] at h
      rcases patterns_eq_error h with ⟨text, -, hroot⟩ | ⟨text, root, dir, hfirst, -, hpackage⟩
      · obtain rfl := rootOf_eq_error hroot
        exact id
      · rcases (visits_iff hfree).2 ⟨text, hfirst⟩ with ⟨_, _, _, -, -, hcandidate, -⟩
        exact (package_eq_error hfree htext (contains_of_candidate hcandidate) hpackage).1

/-- In a tree without links, and with names that are texts, every package of a load is counted from
the nearest module, in its directory or above it, and where there is none, from the root that the
load found it from. So packages of one module in different directories have different import paths.
And a load never fails because a path cannot be told. -/
theorem importPath_counts_from_nearest_module (hfree : t.root.isLinkFree = true)
    (htext : t.root.namesAreText = true) (texts : List String) (config : Config) :
    (∀ found, roots t texts config = .ok found →
      (∀ p ∈ found, ∃ excludes root names,
        ExcludeSet.parse config.exclude = .ok excludes ∧
        Visits t excludes (givenPatterns texts) root p.dir ∧
        (∀ name, name ∈ names ↔ Selected t excludes config.includeTests root p.dir name) ∧
        (∀ m, NearestModule t p.dir m →
          ∃ path, DeclaresModule t m path ∧ CountedFrom t m path names p) ∧
        ((∀ m, ¬ NearestModule t p.dir m) → ∀ name, root.getLast? = some name →
          ∃ s, utf8 s = name ∧ CountedFrom t root s names p)) ∧
      ∀ p ∈ found, ∀ q ∈ found, ∀ m, NearestModule t p.dir m → NearestModule t q.dir m →
        p.dir ≠ q.dir → p.importPath ≠ q.importPath) ∧
    ∀ e, roots t texts config = .error e → ¬ e.IsPathFault := by
  refine ⟨?_, fun e => not_isPathFault_of_roots hfree htext⟩
  intro found hload
  rcases roots_eq_ok_iff.1 hload with ⟨excludes, hparse, hpatterns⟩
  constructor
  · intro p hp
    rcases package_of_mem_patterns hpatterns hp with ⟨text, root, hfirst, hpackage⟩
    have hvisits := (visits_iff hfree).2 ⟨text, hfirst⟩
    have hroot : root <+: p.dir := by
      rcases hvisits with ⟨_, _, _, -, -, hcandidate, -⟩
      exact contains_of_candidate hcandidate
    refine ⟨excludes, root, sourceNames t excludes config.includeTests root p.dir, hparse, hvisits,
      fun name => mem_sourceNames_iff hfree htext, ?_, ?_⟩
    · intro m hnearest
      rcases countedFrom_nearestModule hfree hpackage hnearest with ⟨path, -, hpath⟩
      exact ⟨path, hpath⟩
    · intro hnone name hlast
      exact countedFrom_root hfree htext hpackage hroot hnone hlast
  · intro p hp q hq m hnearest hnearest' hne
    rcases package_of_mem_patterns hpatterns hp with ⟨_, root, -, hpackage⟩
    rcases package_of_mem_patterns hpatterns hq with ⟨_, root', -, hpackage'⟩
    exact importPath_ne_of_nearestModule hfree hpackage hpackage' hnearest hnearest' hne

/-- A module with another one in it, and a directory outside of both. -/
def nestedModulesTree : FileTree :=
  { root := .dir
      [(utf8 "m", .dir
        [(utf8 "go.mod", .file "module e.org/m/".toUTF8), (utf8 "x.go", .file .empty),
         (utf8 "a", .dir [(utf8 "y.go", .file .empty)]),
         (utf8 "n", .dir [(utf8 "go.mod", .file "module n".toUTF8), (utf8 "z.go", .file .empty)])]),
       (utf8 "s", .dir [(utf8 "b", .dir [(utf8 "w.go", .file .empty)])])]
    home := [] }

/-- The load finds a module, a directory in it, a module nested in it and a directory in none. -/
theorem roots_nestedModulesTree :
    (roots nestedModulesTree ["m/...", "s/..."] {}).map
        (·.map fun p => (p.dir, p.importPath, p.files.map (·.path))) =
      .ok [([utf8 "m"], "e.org/m/", ["x.go"]), ([utf8 "m", utf8 "a"], "e.org/m/a", ["a/y.go"]),
        ([utf8 "m", utf8 "n"], "n", ["z.go"]), ([utf8 "s", utf8 "b"], "s/b", ["b/w.go"])] := rfl

/-- One package is counted from the outer module, one from the root of its pattern. -/
theorem importPath_counts_from_nearest_module_nestedModulesTree :
    nestedModulesTree.root.isLinkFree = true ∧ nestedModulesTree.root.namesAreText = true ∧
      NearestModule nestedModulesTree [utf8 "m", utf8 "a"] [utf8 "m"] ∧
      NearestModule nestedModulesTree [utf8 "m", utf8 "n"] [utf8 "m", utf8 "n"] ∧
      (∀ m, ¬ NearestModule nestedModulesTree [utf8 "s", utf8 "b"] m) ∧
      ∃ found, roots nestedModulesTree ["m/...", "s/..."] {} = .ok found ∧
        found.map (fun p => (p.dir, p.importPath, p.files.map (·.path))) =
          [([utf8 "m"], "e.org/m/", ["x.go"]), ([utf8 "m", utf8 "a"], "e.org/m/a", ["a/y.go"]),
            ([utf8 "m", utf8 "n"], "n", ["z.go"]), ([utf8 "s", utf8 "b"], "s/b", ["b/w.go"])] ∧
        ∀ p ∈ found,
          (p.dir = [utf8 "m", utf8 "a"] → ∃ path names,
            DeclaresModule nestedModulesTree [utf8 "m"] path ∧
            CountedFrom nestedModulesTree [utf8 "m"] path names p) ∧
          (p.dir = [utf8 "s", utf8 "b"] → ∃ root names, ∀ name, root.getLast? = some name →
            ∃ s, utf8 s = name ∧ CountedFrom nestedModulesTree root s names p) := by
  have hfree : nestedModulesTree.root.isLinkFree = true := by decide
  have htext : nestedModulesTree.root.namesAreText = true := by decide
  have hinner : NearestModule nestedModulesTree [utf8 "m", utf8 "a"] [utf8 "m"] :=
    (find?_eq_some_iff_nearestModule hfree).1 rfl
  have hnested : NearestModule nestedModulesTree [utf8 "m", utf8 "n"] [utf8 "m", utf8 "n"] :=
    (find?_eq_some_iff_nearestModule hfree).1 rfl
  have houter : ∀ m, ¬ NearestModule nestedModulesTree [utf8 "s", utf8 "b"] m :=
    (find?_eq_none_iff_nearestModule hfree).1 rfl
  refine ⟨hfree, htext, hinner, hnested, houter, ?_⟩
  have hok := roots_nestedModulesTree
  cases hload : roots nestedModulesTree ["m/...", "s/..."] {} with
  | error e => simp [hload, Except.map] at hok
  | ok found =>
      refine ⟨found, rfl, by simpa [hload, Except.map] using hok, ?_⟩
      intro p hp
      rcases (importPath_counts_from_nearest_module hfree htext _ _).1 found hload with
        ⟨hcounted, -⟩
      rcases hcounted p hp with ⟨_, root, names, -, -, -, hmodule, hroot⟩
      constructor
      · intro hdir
        rcases hmodule [utf8 "m"] (hdir ▸ hinner) with ⟨path, hpath⟩
        exact ⟨path, names, hpath⟩
      · intro hdir
        exact ⟨root, names, hroot (hdir ▸ houter)⟩

end Load
end GoSurvey
