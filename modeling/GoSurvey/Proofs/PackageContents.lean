import Mathlib.Data.List.ReduceOption
import GoSurvey.Load
import GoSurvey.Proofs.Outcome
import GoSurvey.Proofs.PlainTree

/-!
# The contents of packages

What a successful load says about each directory and each source, function by function.

* `Path.isGoSourceName_iff` — the names of Go sources, by what they end in;
* `Load.Selected`, `Load.mem_sourceNames_iff` — the sources of a directory;
* `Load.relative_eq_ok_iff`, `Load.file_eq_ok_iff`, `Load.package_eq_ok_iff` — when a step of the
  load succeeds, and with what;
* `Load.packages_eq_mapM` — passing over what was visited is the same as leaving it out beforehand.
-/

namespace GoSurvey

open Text

/-! ## Names of sources -/

namespace Path

variable {name ext : Name}

/-- An extension is what follows the last point, unless nothing stands before the point. -/
theorem extension?_eq_some_iff (hdot : dot ∉ ext) (hext : ext ≠ []) :
    extension? name = some ext ↔ ∃ stem, stem ≠ [] ∧ name = stem ++ dot :: ext := by
  constructor
  · intro h
    unfold extension? at h
    split at h
    next => simp at h
    next => simp at h
    next => simp at h
    next last before hone hblank hpieces =>
      split at h
      next => simp at h
      next =>
        have hlast : last = ext := by simpa using h
        have hsplit : splitOn dot name = before.reverse ++ [ext] := by
          simpa [hlast] using congrArg List.reverse hpieces
        have hbefore : before.reverse ≠ [] := by
          intro hnil
          exact hone (by simpa using hnil)
        refine ⟨joinWith dot before.reverse, ?_, ?_⟩
        · -- An empty stem would leave a single empty piece before the last one.
          intro hstem
          rcases joinWith_eq_nil hstem with hnil | hempty
          · exact hbefore hnil
          · exact hblank (by simpa using congrArg List.reverse hempty)
        · calc name = joinWith dot (splitOn dot name) := (joinWith_splitOn dot name).symm
            _ = joinWith dot (before.reverse ++ [ext]) := by rw [hsplit]
            _ = joinWith dot before.reverse ++ dot :: ext := joinWith_concat hbefore ext
  · intro hstem
    rcases hstem with ⟨stem, hstem, rfl⟩
    have hsplit : (splitOn dot (stem ++ dot :: ext)).reverse = ext :: (splitOn dot stem).reverse := by
      simp [splitOn_append, splitOn_of_not_mem hdot]
    -- The name `..` is refused, but has no stem before a dot and an extension.
    have hparent : stem ++ dot :: ext ≠ parent := by
      intro heq
      have hlength := congrArg List.length heq
      have hpos := List.length_pos_iff.2 hstem
      have hpos' := List.length_pos_iff.2 hext
      simp [parent] at hlength
      omega
    unfold extension?
    rw [hsplit]
    split
    next heq => simp at heq
    next heq =>
      have hnone : splitOn dot stem = [] := by simpa using (List.cons.inj heq).2
      exact absurd hnone (splitOn_ne_nil dot stem)
    next heq =>
      have hone : splitOn dot stem = [[]] := by simpa using (List.cons.inj heq).2
      have hjoin : stem = [] := by simpa [hone, joinWith] using (joinWith_splitOn dot stem).symm
      exact absurd hjoin hstem
    next last before hone hblank heq =>
      have hlast : last = ext := (List.cons.inj heq).1.symm
      rw [if_neg hparent, hlast]

/-- A Go source is named by something and `.go`, and by no `_test.go` unless tests are asked for. -/
theorem isGoSourceName_iff (htext : (ofUtf8? name).isSome = true) {includeTests : Bool} :
    isGoSourceName includeTests name = true ↔
      (∃ stem, stem ≠ [] ∧ name = stem ++ utf8 ".go") ∧
        (includeTests = true ∨ ¬ utf8 "_test.go" <:+ name) := by
  have hpoint : utf8 ".go" = dot :: utf8 "go" := by decide
  have hext : extension? name = some (utf8 "go") ↔
      ∃ stem, stem ≠ [] ∧ name = stem ++ dot :: utf8 "go" :=
    extension?_eq_some_iff (by decide) (by decide)
  have htest : (dropSuffix? (utf8 "_test.go") name).isSome = true ↔ utf8 "_test.go" <:+ name := by
    simp only [Option.isSome_iff_exists, dropSuffix?_eq_some_iff]
    exact exists_congr fun rest => eq_comm
  simp only [isGoSourceName, Bool.and_eq_true, Bool.or_eq_true, beq_iff_eq, hext, hpoint, htext,
    Bool.true_and, Bool.not_eq_true', ← htest, Bool.not_eq_true]

end Path

namespace Load

open Outcome

variable {t : FileTree} {excludes : ExcludeSet} {includeTests : Bool} {root base dir loc : Location}

/-! ## Sources -/

/-- Whether an entry of a directory is a source of the package there: a file with the name of a Go
source whose path from the root is not excluded. -/
def Selected (t : FileTree) (excludes : ExcludeSet) (includeTests : Bool) (root dir : Location)
    (name : Name) : Prop :=
  (∃ content, t.root.at? (dir ++ [name]) = some (.file content)) ∧
    (∃ stem, stem ≠ [] ∧ name = stem ++ utf8 ".go") ∧
    (includeTests = true ∨ ¬ utf8 "_test.go" <:+ name) ∧
    excludes.excludesPath (FileTree.displayRelative ((dir ++ [name]).drop root.length)) = false

/-- The names of the sources of a directory in the order in which they are loaded. -/
def sourceNames (t : FileTree) (excludes : ExcludeSet) (includeTests : Bool)
    (root dir : Location) : List Name :=
  (t.entryNames dir).filter fun name =>
    t.isFile (dir ++ [name]) && Path.isGoSourceName includeTests name
      && !isExcluded excludes root (dir ++ [name])

theorem sources_eq_map :
    sources t excludes includeTests root dir =
      (sourceNames t excludes includeTests root dir).map (dir ++ [·]) :=
  rfl

theorem sourceNames_increasing :
    (sourceNames t excludes includeTests root dir).Pairwise Name.Before :=
  (t.entryNames_increasing dir).filter _

/-- On a link-free tree the sources of a directory are its selected files. -/
theorem mem_sourceNames_iff (hfree : t.root.isLinkFree = true)
    (htext : t.root.namesAreText = true) {name : Name} :
    name ∈ sourceNames t excludes includeTests root dir ↔
      Selected t excludes includeTests root dir name := by
  simp only [sourceNames, List.mem_filter, Bool.and_eq_true, Bool.not_eq_true',
    FileTree.isFile_iff hfree, isExcluded, Selected]
  constructor
  · intro h
    rcases h with ⟨-, ⟨⟨content, hat⟩, hname⟩, hexcluded⟩
    have hgo := (Path.isGoSourceName_iff (Node.isSome_ofUtf8?_of_at? htext hat)).1 hname
    exact ⟨⟨content, hat⟩, hgo.1, hgo.2, hexcluded⟩
  · intro h
    rcases h with ⟨⟨content, hat⟩, hstem, htests, hexcluded⟩
    have hname := (Path.isGoSourceName_iff (Node.isSome_ofUtf8?_of_at? htext hat)).2 ⟨hstem, htests⟩
    exact ⟨(FileTree.mem_entryNames_iff hfree).2 ⟨_, hat⟩, ⟨⟨content, hat⟩, hname⟩, hexcluded⟩

/-- A directory has sources when a file in it is selected. -/
theorem sourceNames_ne_nil_iff (hfree : t.root.isLinkFree = true)
    (htext : t.root.namesAreText = true) :
    sourceNames t excludes includeTests root dir ≠ [] ↔
      ∃ name, Selected t excludes includeTests root dir name := by
  constructor
  · intro hnames
    rcases List.exists_mem_of_ne_nil _ hnames with ⟨name, hname⟩
    exact ⟨name, (mem_sourceNames_iff hfree htext).1 hname⟩
  · intro h
    rcases h with ⟨name, hname⟩
    exact List.ne_nil_of_mem ((mem_sourceNames_iff hfree htext).2 hname)

/-! ## Files and packages -/

/-- A location has a path from a directory if it lies in it once links are followed on both sides,
and its names make a text. -/
theorem relative_eq_ok_iff_resolved {path : String} :
    relative t loc base = .ok path ↔
      (t.resolve? base).getD base <+: (t.resolve? loc).getD loc ∧
        utf8 path = joinWith Path.slash
          (((t.resolve? loc).getD loc).drop ((t.resolve? base).getD base).length) := by
  unfold relative
  simp only [List.isPrefixOf_iff_prefix]
  split
  next hbase =>
    rw [← ofUtf8?_eq_some_iff]
    split
    next text htext => simp [hbase, htext]
    next htext => simp [htext]
  next hbase => simp [hbase]

/-- Without links, a location has a path from every directory that it lies in, if its names make a
text. -/
theorem relative_eq_ok_iff (hfree : t.root.isLinkFree = true) {path : String} :
    relative t loc base = .ok path ↔
      base <+: loc ∧ utf8 path = joinWith Path.slash (loc.drop base.length) := by
  rw [relative_eq_ok_iff_resolved, FileTree.getD_resolve? hfree, FileTree.getD_resolve? hfree]

/-- A file is read, placed and parsed, and nothing else is done to it. -/
theorem file_eq_ok_iff {f : LoadedFile} :
    file t base loc = .ok f ↔
      t.read? loc = some f.content ∧ relative t loc base = .ok f.path ∧
        f.outline = Source.File.parse f.content := by
  unfold file
  cases hread : t.read? loc with
  | none => simp
  | some content =>
      simp only [bind_eq_ok_iff, pure_eq_ok_iff, Option.some.injEq]
      constructor
      · intro h
        rcases h with ⟨path, hpath, rfl⟩
        exact ⟨rfl, hpath, rfl⟩
      · intro h
        rcases h with ⟨rfl, hpath, houtline⟩
        refine ⟨f.path, hpath, ?_⟩
        rw [← houtline]

/-- A directory without sources holds no package; any other is one, if its module can be told and
its files can be read. -/
theorem package_eq_ok_iff {found : Option LoadedPackage} :
    package t excludes includeTests root dir = .ok found ↔
      (sources t excludes includeTests root dir = [] ∧ found = none) ∨
        (sources t excludes includeTests root dir ≠ [] ∧
          ∃ base baseImport way files,
            importRoot t root dir = .ok (base, baseImport) ∧ relative t dir base = .ok way ∧
            List.Forall₂ (fun source f => file t base source = .ok f)
              (sources t excludes includeTests root dir) files ∧
            found = some
              { id := joinImportPath baseImport way
                name := (files.findSome? (·.outline.packageName?)).getD (lastName dir)
                importPath := joinImportPath baseImport way
                dir
                files }) := by
  unfold package
  by_cases hnone : sources t excludes includeTests root dir = []
  · simp [hnone, eq_comm]
  · simp only [List.isEmpty_iff, hnone, if_false, bind_eq_ok_iff, pure_eq_ok_iff, mapM_eq_ok_iff,
      false_and, false_or, not_false_eq_true, true_and, ne_eq, Prod.exists]
    constructor
    · intro h
      rcases h with ⟨base, baseImport, hbase, way, hway, files, hfiles, rfl⟩
      exact ⟨base, baseImport, way, files, hbase, hway, hfiles, rfl⟩
    · intro h
      rcases h with ⟨base, baseImport, way, files, hbase, hway, hfiles, rfl⟩
      exact ⟨base, baseImport, hbase, way, hway, files, hfiles, rfl⟩

/-! ## Passes over directories -/

section Passes

variable {visited visited' rest : List Location} {found : List LoadedPackage}

theorem packages_cons_of_mem (hdir : dir ∈ visited) :
    packages t excludes includeTests root visited (dir :: rest) =
      packages t excludes includeTests root visited rest := by
  rw [packages, if_pos (by simpa using hdir)]

/-- A new directory is looked at, then marked for the rest of the pass. -/
theorem packages_cons_eq_ok_iff (hdir : dir ∉ visited) :
    packages t excludes includeTests root visited (dir :: rest) = .ok (found, visited') ↔
      ∃ result later, package t excludes includeTests root dir = .ok result ∧
        packages t excludes includeTests root (dir :: visited) rest = .ok (later, visited') ∧
        found = result.toList ++ later := by
  rw [packages, if_neg (by simpa using hdir)]
  simp only [bind_eq_ok_iff, pure_eq_ok_iff, Prod.exists, Prod.mk.injEq]
  constructor
  · rintro ⟨result, hresult, later, last, hlater, rfl, rfl⟩
    exact ⟨result, later, hresult, hlater, rfl⟩
  · rintro ⟨result, later, hresult, hlater, rfl⟩
    exact ⟨result, hresult, later, visited', hlater, rfl, rfl⟩

end Passes

def unvisited (visited dirs : List Location) : List Location :=
  dirs.filter (· ∉ visited)

theorem unvisited_nil (dirs : List Location) : unvisited [] dirs = dirs :=
  List.filter_eq_self.2 (by simp)

/-- Where no directory comes twice, loading passes over the visited ones and takes the others in
order. -/
theorem packages_eq_mapM {dirs : List Location} (hnodup : dirs.Nodup) (visited : List Location) :
    packages t excludes includeTests root visited dirs =
      ((unvisited visited dirs).mapM (package t excludes includeTests root)).map fun found =>
        (found.reduceOption, (unvisited visited dirs).reverse ++ visited) := by
  induction dirs generalizing visited with
  | nil => rfl
  | cons dir rest ih =>
      rcases List.nodup_cons.1 hnodup with ⟨hdir, hrest⟩
      by_cases hvisited : dir ∈ visited
      · have hskip : unvisited visited (dir :: rest) = unvisited visited rest :=
          List.filter_cons_of_neg (by simpa using hvisited)
        rw [packages_cons_of_mem hvisited, hskip]
        exact ih hrest visited
      · have htake : unvisited visited (dir :: rest) = dir :: unvisited visited rest :=
          List.filter_cons_of_pos (by simpa using hvisited)
        -- What comes later differs from `dir`, so that marking `dir` as visited changes nothing.
        have hlater : unvisited (dir :: visited) rest = unvisited visited rest := by
          refine List.filter_congr ?_
          intro d hd
          have hne : d ≠ dir := fun heq => hdir (heq ▸ hd)
          simp [hne]
        rw [packages, if_neg (by simpa using hvisited), htake, List.mapM_cons,
          ih hrest (dir :: visited), hlater]
        cases package t excludes includeTests root dir with
        | error e => rfl
        | ok found =>
            cases (unvisited visited rest).mapM (package t excludes includeTests root) with
            | error e => rfl
            | ok later => cases found <;> simp [bind, Except.bind, pure, Except.pure, Except.map]

end Load
end GoSurvey
