import GoSurvey.Proofs.NearestModule
import GoSurvey.Proofs.PatternLists

/-!
# When a load fails

A load goes through patterns, through the directories of each and through the files of these, and
the first fault ends it. This file tells which faults there are, in terms of the tree, the patterns
and the configuration alone.

* `Load.package_eq_error`, `Load.exists_package_eq_error_iff` — the faults of one directory;
* `Load.packages_eq_error`, `Load.patterns_eq_error` — a failure on the way is one of the faults met;
* `Load.patterns_eq_ok` — where there is none, no fault has been met;
* `Load.Visits` — the directories that a load looks at, and from which root;
* `Load.roots_fails_iff` — when a load fails.
-/

namespace GoSurvey

def LoadError.IsPathFault : LoadError → Prop
  | outside _ _ => True
  | nameNotText => True
  | _ => False

namespace Load

open Text Outcome

variable {t : FileTree} {excludes : ExcludeSet} {includeTests : Bool} {root dir : Location}

/-! ## One directory -/

def HasFaultySource (t : FileTree) (excludes : ExcludeSet) (includeTests : Bool)
    (root dir : Location) : Prop :=
  ∃ name content, Selected t excludes includeTests root dir name ∧
    t.root.at? (dir ++ [name]) = some (.file content) ∧ String.fromUTF8? content = none

/-- What can be wrong with a directory: with its module, if it has a selected source, or with one of
these sources. -/
def HasFault (t : FileTree) (excludes : ExcludeSet) (includeTests : Bool) (root dir : Location) :
    Prop :=
  ((∃ name, Selected t excludes includeTests root dir name) ∧ HasFaultyModule t dir) ∨
    HasFaultySource t excludes includeTests root dir

section LinkFree

variable (hfree : t.root.isLinkFree = true) (htext : t.root.namesAreText = true)

include hfree htext

/-- A selected source fails only for its text; its path can always be told. -/
theorem file_eq_error {base : Location} {name : Name} {e : LoadError} (hbase : base <+: dir)
    (hname : Selected t excludes includeTests root dir name)
    (h : file t base (dir ++ [name]) = .error e) :
    ¬ e.IsPathFault ∧ HasFaultySource t excludes includeTests root dir := by
  rcases hname.1 with ⟨content, hat⟩
  have hread := FileTree.read?_of_at? hfree hat
  cases hcontent : String.fromUTF8? content with
  | none =>
      obtain rfl : LoadError.notText (dir ++ [name]) = e := by
        simpa [file, hread, hcontent] using h
      exact ⟨id, name, content, hname, hat, hcontent⟩
  | some text =>
      -- The path to the file can be told, so nothing is left that could fail.
      have hbase' : base <+: dir ++ [name] := hbase.trans (List.prefix_append dir [name])
      rcases exists_relative_eq_ok hfree htext hbase' hat with ⟨path, hpath⟩
      simp [file, hread, hcontent, hpath] at h

/-- There are sources in a directory exactly if a name in it is selected. -/
theorem sources_ne_nil_iff :
    sources t excludes includeTests root dir ≠ [] ↔
      ∃ name, Selected t excludes includeTests root dir name := by
  rw [sources_eq_map, ne_eq, List.map_eq_nil_iff]
  exact sourceNames_ne_nil_iff hfree htext

/-- Where the package of a directory cannot be loaded, there is something wrong with the directory.
That a path cannot be told is never the reason. -/
theorem package_eq_error {e : LoadError} (hroot : root <+: dir)
    (h : package t excludes includeTests root dir = .error e) :
    ¬ e.IsPathFault ∧ HasFault t excludes includeTests root dir := by
  unfold package at h
  by_cases hnone : sources t excludes includeTests root dir = []
  · simp [hnone] at h
  · have hsome := (sources_ne_nil_iff hfree htext).1 hnone
    obtain ⟨entries, hdir⟩ : ∃ entries, t.root.at? dir = some (.dir entries) := by
      rcases hsome with ⟨name, ⟨content, hat⟩, -⟩
      exact Node.exists_dir_of_at?_append hat
    simp only [List.isEmpty_iff, hnone, if_false, bind_eq_error_iff, pure_ne_error, and_false,
      exists_false, or_false, Prod.exists] at h
    rcases h with hmodule | ⟨base, baseImport, hbase, h⟩
    · rcases importRoot_cases hfree root dir with ⟨-, hok⟩ | ⟨m, path, -, -, hok⟩ | ⟨hfault, m, hm⟩
      · simp [hok] at hmodule
      · simp [hok] at hmodule
      · refine ⟨?_, Or.inl ⟨hsome, hfault⟩⟩
        rcases hm with hm | hm
        · obtain rfl := Except.error.inj (hm.symm.trans hmodule)
          exact id
        · obtain rfl := Except.error.inj (hm.symm.trans hmodule)
          exact id
    · have hbelow : base <+: dir := contains_of_importRoot hfree hroot hbase
      rcases h with hway | ⟨way, -, hfiles⟩
      · rcases exists_relative_eq_ok hfree htext hbelow hdir with ⟨path, hpath⟩
        simp [hpath] at hway
      · rcases exists_of_mapM_eq_error hfiles with ⟨source, hsource, hfile⟩
        rw [sources_eq_map] at hsource
        rcases List.mem_map.1 hsource with ⟨name, hname, rfl⟩
        have hselected := (mem_sourceNames_iff hfree htext).1 hname
        rcases file_eq_error hfree htext hbelow hselected hfile with ⟨hpath, hfault⟩
        exact ⟨hpath, Or.inr hfault⟩

/-- The package of a directory cannot be loaded exactly if there is something wrong with the
directory. -/
theorem exists_package_eq_error_iff (hroot : root <+: dir) :
    (∃ e, package t excludes includeTests root dir = .error e) ↔
      HasFault t excludes includeTests root dir := by
  constructor
  · rintro ⟨e, he⟩
    exact (package_eq_error hfree htext hroot he).2
  · intro hfault
    rw [exists_error_iff]
    rintro ⟨found, hfound⟩
    have hsome : ∃ name, Selected t excludes includeTests root dir name := by
      rcases hfault with ⟨hsome, -⟩ | ⟨name, -, hname, -⟩
      · exact hsome
      · exact ⟨name, hname⟩
    rcases package_eq_ok_iff.1 hfound with
      ⟨hnone, -⟩ | ⟨-, base, baseImport, _, files, hbase, -, hfiles, -⟩
    · exact (sources_ne_nil_iff hfree htext).2 hsome hnone
    · rcases hfault with ⟨-, hmodule⟩ | ⟨name, content, hname, hat, hcontent⟩
      · exact not_hasFaultyModule_of_importRoot hfree hbase hmodule
      · -- All sources of the package were read, this one among them.
        have hmem : dir ++ [name] ∈ sources t excludes includeTests root dir := by
          rw [sources_eq_map]
          exact List.mem_map_of_mem ((mem_sourceNames_iff hfree htext).2 hname)
        rcases exists_eq_ok_of_mem hfiles hmem with ⟨f, hf⟩
        have hread := (file_eq_ok_iff.1 hf).1
        rw [FileTree.read?_of_at? hfree hat, hcontent] at hread
        simp at hread

end LinkFree

/-! ## Patterns -/

/-- A pass over directories fails in the way in which a directory fails that was not visited
before. -/
theorem packages_eq_error {visited dirs : List Location} {e : LoadError}
    (h : packages t excludes includeTests root visited dirs = .error e) :
    ∃ dir ∈ dirs, dir ∉ visited ∧ package t excludes includeTests root dir = .error e := by
  -- The list of visited directories grows along the pass, so the induction holds for any of them.
  induction dirs generalizing visited with
  | nil => simp [packages] at h
  | cons dir rest ih =>
      by_cases hdir : dir ∈ visited
      · rw [packages_cons_of_mem hdir] at h
        rcases ih h with ⟨d, hd, hnew, hfails⟩
        exact ⟨d, List.mem_cons_of_mem dir hd, hnew, hfails⟩
      · rw [packages, if_neg (by simpa using hdir)] at h
        simp only [bind_eq_error_iff, pure_ne_error, and_false, exists_false, or_false] at h
        rcases h with hfirst | ⟨result, -, hlater⟩
        · exact ⟨dir, List.mem_cons_self, hdir, hfirst⟩
        · rcases ih hlater with ⟨d, hd, hnew, hfails⟩
          exact ⟨d, List.mem_cons_of_mem dir hd, fun hmem => hnew (List.mem_cons_of_mem dir hmem),
            hfails⟩

/-- Where a pass succeeds, so does every directory that was not visited before. -/
theorem packages_eq_ok {visited dirs : List Location} {result : List LoadedPackage × List Location}
    (h : packages t excludes includeTests root visited dirs = .ok result) (hdir : dir ∈ dirs)
    (hnew : dir ∉ visited) : ∃ found, package t excludes includeTests root dir = .ok found := by
  induction dirs generalizing visited result with
  | nil => simp at hdir
  | cons first rest ih =>
      by_cases hfirst : first ∈ visited
      · rw [packages_cons_of_mem hfirst] at h
        rcases List.mem_cons.1 hdir with rfl | hrest
        · exact absurd hfirst hnew
        · exact ih h hrest hnew
      · rcases (packages_cons_eq_ok_iff hfirst).1 h with ⟨found, later, hfound, hlater, -⟩
        by_cases heq : dir = first
        · exact ⟨found, heq ▸ hfound⟩
        · have hrest : dir ∈ rest := (List.mem_cons.1 hdir).resolve_left heq
          exact ih hlater hrest (by simp [heq, hnew])

/-- A load of patterns fails in the way in which one of them fails to name a directory, or in the way
in which a directory fails at the first pattern to reach it. -/
theorem patterns_eq_error {visited : List Location} {texts : List String} {e : LoadError}
    (h : patterns t excludes includeTests visited texts = .error e) :
    (∃ text ∈ texts, rootOf t text = .error e) ∨
      ∃ text root dir, FirstToReach t excludes texts text root dir ∧ dir ∉ visited ∧
        package t excludes includeTests root dir = .error e := by
  induction texts generalizing visited with
  | nil => simp [patterns] at h
  | cons first rest ih =>
      simp only [patterns, bind_eq_error_iff, pure_ne_error, and_false, exists_false, or_false,
        Prod.exists] at h
      rcases h with hroot | ⟨root, hroot, hhere | ⟨here, visited', hhere, hlater⟩⟩
      · exact Or.inl ⟨first, List.mem_cons_self, hroot⟩
      · rcases packages_eq_error hhere with ⟨dir, hdir, hnew, hfails⟩
        exact Or.inr ⟨first, root, dir, firstToReach_of_reaches ⟨hroot, hdir⟩, hnew, hfails⟩
      · rcases ih hlater with ⟨text, htext, hfails⟩ | ⟨text, root', dir, hfirst, hnew, hfails⟩
        · exact Or.inl ⟨text, List.mem_cons_of_mem first htext, hfails⟩
        -- What the earlier pattern visited is what it reaches, so the later one is the first to
        -- reach the rest.
        · have hpass := pass_of_packages_eq_ok hhere
          have hskip := not_reaches_of_not_mem_visited hroot hpass hnew
          rw [hpass.mem_visited, not_or] at hnew
          exact Or.inr ⟨text, root', dir, hfirst.cons hskip, hnew.1, hfails⟩

/-- Where a load of patterns succeeds, all of them name directories, and every directory succeeds at
the first pattern to reach it. -/
theorem patterns_eq_ok {visited : List Location} {texts : List String} {found : List LoadedPackage}
    (h : patterns t excludes includeTests visited texts = .ok found) :
    (∀ text ∈ texts, ∃ root, rootOf t text = .ok root) ∧
      ∀ text root dir, FirstToReach t excludes texts text root dir → dir ∉ visited →
        ∃ result, package t excludes includeTests root dir = .ok result := by
  induction texts generalizing visited found with
  | nil => simp [FirstToReach]
  | cons first rest ih =>
      rcases patterns_cons_eq_ok_iff.1 h with
        ⟨root, here, visited', later, hroot, hhere, hlater, rfl⟩
      rcases ih hlater with ⟨hroots, hdirs⟩
      refine ⟨List.forall_mem_cons.2 ⟨⟨root, hroot⟩, hroots⟩, ?_⟩
      intro text root' dir hfirst hnew
      rcases firstToReach_cons_iff.1 hfirst with ⟨-, hroot', hdir⟩ | ⟨hunreached, hrest⟩
      · obtain rfl : root = root' := Except.ok.inj (hroot.symm.trans hroot')
        exact packages_eq_ok hhere hdir hnew
      · refine hdirs text root' dir hrest ?_
        rw [(pass_of_packages_eq_ok hhere).mem_visited, not_or]
        exact ⟨hnew, fun hdir => hunreached root ⟨hroot, hdir⟩⟩

/-! ## Loads -/

def NamesDirectory (t : FileTree) (text : String) (root : Location) : Prop :=
  t.resolvePath? (Pattern.ofText text).path = some root ∧ t.isDir root = true

/-- Whether a load of the patterns looks at a directory from `root`: it is a candidate of the pattern
that names `root`, and of none before it. -/
def Visits (t : FileTree) (excludes : ExcludeSet) (texts : List String) (root dir : Location) :
    Prop :=
  ∃ before text after, texts = before ++ text :: after ∧ NamesDirectory t text root ∧
    Candidate t excludes (Pattern.ofText text).recursive root dir ∧
    ∀ earlier ∈ before, ∀ root', NamesDirectory t earlier root' →
      ¬ Candidate t excludes (Pattern.ofText earlier).recursive root' dir

/-- On a link-free tree a pattern reaches the directories the walk of its own directory finds. -/
theorem reaches_iff (hfree : t.root.isLinkFree = true) {text : String} :
    Reaches t excludes text root dir ↔
      NamesDirectory t text root ∧
        Candidate t excludes (Pattern.ofText text).recursive root dir := by
  unfold Reaches NamesDirectory
  rw [rootOf_eq_ok_iff]
  refine and_congr_right ?_
  intro hroot
  exact mem_candidates_iff hfree hroot.2

/-- A directory is visited by the first pattern that reaches it. -/
theorem visits_iff (hfree : t.root.isLinkFree = true) {texts : List String} :
    Visits t excludes texts root dir ↔ ∃ text, FirstToReach t excludes texts text root dir := by
  unfold Visits FirstToReach
  simp only [reaches_iff hfree, and_assoc, not_and]
  constructor
  · rintro ⟨before, text, after, h⟩
    exact ⟨text, before, after, h⟩
  · rintro ⟨text, before, after, h⟩
    exact ⟨before, text, after, h⟩

theorem contains_of_candidate {recursive : Bool} (h : Candidate t excludes recursive root dir) :
    root <+: dir := by
  rcases h with rfl | ⟨-, way, rfl, -⟩
  · exact List.prefix_refl dir
  · exact List.prefix_append root way

/-- Exclude patterns are refused exactly if one of them is. -/
theorem exists_parse_eq_error_iff {patterns : List String} :
    (∃ e, ExcludeSet.parse patterns = .error e) ↔
      ∃ p ∈ patterns, ∃ e, Glob.parse p = .error e := by
  constructor
  · rintro ⟨e, he⟩
    rcases exists_of_mapM_eq_error (map_eq_error_iff.1 he) with ⟨p, hp, hfails⟩
    cases hparse : Glob.parse p with
    | error cause => exact ⟨p, hp, cause, hparse⟩
    | ok glob => simp [hparse, Except.mapError] at hfails
  · rintro ⟨p, hp, cause, hcause⟩
    rw [exists_error_iff]
    rintro ⟨set, hset⟩
    rcases map_eq_ok_iff.1 hset with ⟨globs, hglobs, -⟩
    rcases exists_eq_ok_of_mem (mapM_eq_ok_iff.1 hglobs) hp with ⟨glob, hglob⟩
    simp [hcause, Except.mapError] at hglob

theorem rootOf_eq_error {text : String} {e : LoadError} (h : rootOf t text = .error e) :
    e = .notDirectory text := by
  unfold rootOf at h
  split at h
  next => simpa using h.symm
  next root =>
    split at h
    next => simp at h
    next => simpa using h.symm

/-- A pattern fails exactly when it names no directory. -/
theorem exists_rootOf_eq_error_iff {text : String} :
    (∃ e, rootOf t text = .error e) ↔ ∀ root, ¬ NamesDirectory t text root := by
  rw [exists_error_iff, not_exists]
  exact forall_congr' fun root => not_congr rootOf_eq_ok_iff

/-- The patterns that a load goes through: those that are given, or else the default. -/
def givenPatterns (texts : List String) : List String :=
  if texts.isEmpty then Pattern.defaults else texts

/-- In a tree without links, and with names that are texts, a load fails exactly if an exclude
pattern is refused, or a pattern names no directory, or the load looks at a directory with a selected
source of which the nearest module file is no text or declares no module, or at one with a selected
source that is no text. -/
theorem roots_fails_iff (hfree : t.root.isLinkFree = true) (htext : t.root.namesAreText = true)
    (texts : List String) (config : Config) :
    (∃ e, roots t texts config = .error e) ↔
      (∃ p ∈ config.exclude, ∃ e, Glob.parse p = .error e) ∨
      (∃ text ∈ givenPatterns texts, ∀ root, ¬ NamesDirectory t text root) ∨
      (∃ excludes root dir, ExcludeSet.parse config.exclude = .ok excludes ∧
        Visits t excludes (givenPatterns texts) root dir ∧
        (∃ name, Selected t excludes config.includeTests root dir name) ∧ HasFaultyModule t dir) ∨
      (∃ excludes root dir, ExcludeSet.parse config.exclude = .ok excludes ∧
        Visits t excludes (givenPatterns texts) root dir ∧
        HasFaultySource t excludes config.includeTests root dir) := by
  rw [← exists_parse_eq_error_iff]
  cases hparse : ExcludeSet.parse config.exclude with
  | error e => simp [roots, hparse]
  | ok excludes =>
      have hroots : roots t texts config =
          patterns t excludes config.includeTests [] (givenPatterns texts) := by
        simp [roots, hparse, givenPatterns]
      -- What is wrong with a directory that is looked at, as one of the last two conditions.
      have hfault : ∀ root dir, Visits t excludes (givenPatterns texts) root dir →
          ((∃ e, package t excludes config.includeTests root dir = .error e) ↔
            HasFault t excludes config.includeTests root dir) := by
        rintro root dir ⟨_, _, _, -, -, hcandidate, -⟩
        exact exists_package_eq_error_iff hfree htext (contains_of_candidate hcandidate)
      rw [hroots]
      simp only [reduceCtorEq, exists_false, false_or, Except.ok.injEq]
      constructor
      · rintro ⟨e, he⟩
        rcases patterns_eq_error he with ⟨text, hmem, hroot⟩ | ⟨text, root, dir, hfirst, -, hpackage⟩
        · exact Or.inl ⟨text, hmem, exists_rootOf_eq_error_iff.1 ⟨e, hroot⟩⟩
        · have hvisits := (visits_iff hfree).2 ⟨text, hfirst⟩
          rcases (hfault root dir hvisits).1 ⟨e, hpackage⟩ with ⟨hsome, hmodule⟩ | hsource
          · exact Or.inr (Or.inl ⟨excludes, root, dir, rfl, hvisits, hsome, hmodule⟩)
          · exact Or.inr (Or.inr ⟨excludes, root, dir, rfl, hvisits, hsource⟩)
      · intro h
        rw [exists_error_iff]
        rintro ⟨found, hfound⟩
        rcases patterns_eq_ok hfound with ⟨hnamed, hdirs⟩
        have hnone : ∀ root dir, Visits t excludes (givenPatterns texts) root dir →
            ¬ HasFault t excludes config.includeTests root dir := by
          intro root dir hvisits
          rcases (visits_iff hfree).1 hvisits with ⟨text, hfirst⟩
          rw [← hfault root dir hvisits, exists_error_iff, not_not]
          exact hdirs text root dir hfirst (by simp)
        rcases h with ⟨text, hmem, hroot⟩ | ⟨_, root, dir, rfl, hvisits, hmodule⟩ |
          ⟨_, root, dir, rfl, hvisits, hsource⟩
        · rcases hnamed text hmem with ⟨root, hok⟩
          exact hroot root (rootOf_eq_ok_iff.1 hok)
        · exact hnone root dir hvisits (Or.inl hmodule)
        · exact hnone root dir hvisits (Or.inr hsource)

def emptyModuleTree : FileTree :=
  { root := .dir
      [(utf8 "b", .dir [(utf8 "go.mod", .file .empty), (utf8 "x.go", .file .empty)])]
    home := [] }

/-- The module file of `b` names no module, which fails the load since `b` has a source. -/
theorem roots_fails_iff_emptyModuleTree :
    emptyModuleTree.root.isLinkFree = true ∧ emptyModuleTree.root.namesAreText = true ∧
      Visits emptyModuleTree ⟨[]⟩ ["b"] [utf8 "b"] [utf8 "b"] ∧
      Selected emptyModuleTree ⟨[]⟩ false [utf8 "b"] [utf8 "b"] (utf8 "x.go") ∧
      HasFaultyModule emptyModuleTree [utf8 "b"] ∧
      ∃ e, roots emptyModuleTree ["b"] {} = .error e := by
  have hfree : emptyModuleTree.root.isLinkFree = true := by decide
  have htext : emptyModuleTree.root.namesAreText = true := by decide
  have hvisits : Visits emptyModuleTree ⟨[]⟩ ["b"] [utf8 "b"] [utf8 "b"] := by
    refine ⟨[], "b", [], rfl, ⟨rfl, rfl⟩, Or.inl rfl, by simp⟩
  have hselected : Selected emptyModuleTree ⟨[]⟩ false [utf8 "b"] [utf8 "b"] (utf8 "x.go") := by
    refine ⟨⟨.empty, rfl⟩, ⟨utf8 "x", by decide, by decide⟩, Or.inr (by decide), rfl⟩
  have hmodule : HasFaultyModule emptyModuleTree [utf8 "b"] := by
    have hfile : emptyModuleTree.root.at? (goModOf [utf8 "b"]) = some (.file .empty) := rfl
    refine ⟨[utf8 "b"], .empty, ⟨List.prefix_refl _, ⟨_, hfile⟩, fun _ h _ => h⟩, hfile, ?_⟩
    exact Or.inr ⟨"", rfl, rfl⟩
  refine ⟨hfree, htext, hvisits, hselected, hmodule, ?_⟩
  refine (roots_fails_iff hfree htext ["b"] {}).2 (Or.inr (Or.inr (Or.inl ?_)))
  exact ⟨⟨[]⟩, [utf8 "b"], [utf8 "b"], rfl, hvisits, ⟨_, hselected⟩, hmodule⟩

end Load
end GoSurvey
