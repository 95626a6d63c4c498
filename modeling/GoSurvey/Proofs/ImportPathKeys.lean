import GoSurvey.Proofs.OverlappingPatterns
import Mathlib.Data.List.Induction

/-!
# Import paths as keys

An import path is made of a module's path and the way from the module to a directory, with links
followed on both sides. So it tells directories apart, but not the links that lead to one.

* `Text.joinWith_inj`, `joinImportPath_inj` — a way, and an import path, can be taken apart again;
* `Load.importPath_eq_iff_of_importRoot` — packages of one module have the same import path exactly
  if their directories are the same;
* `Load.importPath_eq_iff_same_directory` — so have all packages of a pattern with no module file
  below its root; where no link leads to a directory of the load, their import paths all differ.
-/

namespace GoSurvey

open Text

/-! ## Ways and import paths -/

namespace Text

theorem utf8_append (s s' : String) : utf8 (s ++ s') = utf8 s ++ utf8 s' := by
  simp [utf8]

/-- Texts with the same bytes are the same. -/
theorem utf8_inj {s s' : String} : utf8 s = utf8 s' ↔ s = s' := by
  constructor
  · intro h
    exact Option.some.inj ((ofUtf8?_eq_some_iff.2 rfl).symm.trans (ofUtf8?_eq_some_iff.2 h.symm))
  · rintro rfl
    rfl

/-- Pieces that are neither empty nor hold the separator can be told from their join. -/
theorem joinWith_inj {α : Type} [DecidableEq α] {sep : α} {pieces pieces' : List (List α)}
    (h : ∀ piece ∈ pieces, piece ≠ [] ∧ sep ∉ piece)
    (h' : ∀ piece ∈ pieces', piece ≠ [] ∧ sep ∉ piece) :
    joinWith sep pieces = joinWith sep pieces' ↔ pieces = pieces' := by
  constructor
  · intro hjoin
    by_cases hnil : pieces = []
    · subst hnil
      rcases joinWith_eq_nil hjoin.symm with hnil' | hone
      · exact hnil'.symm
      · exact absurd rfl (h' [] (by simp [hone])).1
    · by_cases hnil' : pieces' = []
      · subst hnil'
        rcases joinWith_eq_nil hjoin with hnil' | hone
        · exact hnil'
        · exact absurd rfl (h [] (by simp [hone])).1
      -- Both lists are found again by splitting.
      · calc pieces = splitOn sep (joinWith sep pieces) :=
              (splitOn_joinWith hnil fun piece hpiece => (h piece hpiece).2).symm
          _ = splitOn sep (joinWith sep pieces') := by rw [hjoin]
          _ = pieces' := splitOn_joinWith hnil' fun piece hpiece => (h' piece hpiece).2
  · rintro rfl
    rfl

/-- Proper pieces make a text that does not start with the separator. -/
theorem head?_joinWith_ne {α : Type} {sep : α} {pieces : List (List α)}
    (h : ∀ piece ∈ pieces, piece ≠ [] ∧ sep ∉ piece) : (joinWith sep pieces).head? ≠ some sep := by
  cases pieces with
  | nil => simp [joinWith]
  | cons piece rest =>
      rcases h piece (by simp) with ⟨hpiece, hsep⟩
      cases piece with
      | nil => exact absurd rfl hpiece
      | cons c piece =>
          have hne : c ≠ sep := fun heq => hsep (by simp [heq])
          cases rest <;> simpa [joinWith] using hne

end Text

/-- Going down from a root changes the import path. -/
theorem joinImportPath_ne_root {root way : String} (hway : way ≠ "")
    (hstart : way.toList.head? ≠ some '/') : joinImportPath root way ≠ root := by
  have hempty : way.isEmpty = false := by simpa using hway
  intro hjoin
  by_cases hroot : root.isEmpty
  · simp only [joinImportPath, hempty, hroot, Bool.false_eq_true, if_false, if_true] at hjoin
    rw [hjoin, hroot] at hempty
    exact absurd hempty (by simp)
  · simp only [joinImportPath, hempty, hroot, Bool.false_eq_true, if_false] at hjoin
    -- The slashes that end the root would have to end in the way.
    rcases exists_dropEndWhile_append (· == '/') root.toList with ⟨slashes, hsplit, hslashes⟩
    have hlist : dropEndWhile (· == '/') root.toList ++ '/' :: way.toList = root.toList := by
      simpa using congrArg String.toList hjoin
    have htail : '/' :: way.toList = slashes := List.append_cancel_left (hlist.trans hsplit)
    cases hlist : way.toList with
    | nil => exact hway (String.toList_eq_nil_iff.1 hlist)
    | cons c rest =>
        have hc : c = '/' := by
          simpa using hslashes c (by simp [← htail, hlist])
        exact hstart (by simp [hlist, hc])

/-- Ways that do not start with a slash can be told from the import paths that they lead to. -/
theorem joinImportPath_inj {root way way' : String} (h : way.toList.head? ≠ some '/')
    (h' : way'.toList.head? ≠ some '/') :
    joinImportPath root way = joinImportPath root way' ↔ way = way' := by
  have hhere : joinImportPath root "" = root := rfl
  constructor
  · intro hjoin
    by_cases hway : way = ""
    · subst hway
      by_contra hne
      exact joinImportPath_ne_root (Ne.symm hne) h' (hjoin.symm.trans hhere)
    · by_cases hway' : way' = ""
      · subst hway'
        exact absurd (hjoin.trans hhere) (joinImportPath_ne_root hway h)
      -- Both ways go down, from the same root, and only they differ.
      · have hempty : way.isEmpty = false := by simpa using hway
        have hempty' : way'.isEmpty = false := by simpa using hway'
        by_cases hroot : root.isEmpty
        · simpa [joinImportPath, hempty, hempty', hroot] using hjoin
        · have hlist := congrArg String.toList hjoin
          simp only [joinImportPath, hempty, hempty', hroot, Bool.false_eq_true, if_false,
            String.toList_append, List.append_cancel_left_eq] at hlist
          exact String.toList_inj.1 hlist
  · rintro rfl
    rfl

namespace Node

/-! ## Names in a tree -/

def lacksName (name : Name) (n : Node) : Bool :=
  n.everywhere fun
    | dir entries => (entries.lookup name).isNone
    | _ => true

/-- Names on the way to something are proper pieces of a path. -/
theorem isPiece_of_mem_at? {n m : Node} {loc : Location} (hpieces : n.namesArePieces = true)
    (hat : n.at? loc = some m) : ∀ name ∈ loc, name ≠ [] ∧ Path.slash ∉ name := by
  intro name hname
  rcases List.append_of_mem hname with ⟨above, rest, rfl⟩
  rcases exists_dir_of_at?_append hat with ⟨entries, hdir⟩
  have hnames := everywhere_self (everywhere_at? hpieces hdir)
  rw [at?_append, hdir, Option.bind_some] at hat
  rcases Option.bind_eq_some_iff.1 hat with ⟨c, hchild, -⟩
  simp only [List.all_eq_true] at hnames
  simpa [Path.isPiece] using hnames (name, c) (mem_of_lookup hchild)

end Node

namespace FileTree

/-- Without links, a location resolves to itself alone. -/
theorem eq_of_resolve? {t : FileTree} (hfree : t.root.isLinkFree = true) {loc target : Location}
    (h : t.resolve? loc = some target) : target = loc := by
  simpa [h] using getD_resolve? hfree loc

/-- Whatever links are followed, a path that ends with a name leads somewhere only if a directory has
an entry of that name. -/
theorem exists_entry_of_walk {root : Node} {name : Name}
    {onLink : Location → List Step → Option Location}
    (honLink : ∀ loc steps target, onLink loc (steps ++ [.enter name]) = some target →
      ∃ dir entries, root.at? dir = some (.dir entries) ∧ (entries.lookup name).isSome = true)
    {loc target : Location} {steps : List Step}
    (h : walk root onLink loc (steps ++ [.enter name]) = some target) :
    ∃ dir entries, root.at? dir = some (.dir entries) ∧ (entries.lookup name).isSome = true := by
  induction steps generalizing loc with
  | nil =>
      rw [List.nil_append, walk] at h
      split at h
      next entries hdir =>
        refine ⟨loc, entries, hdir, ?_⟩
        cases hentry : entries.lookup name with
        | none => simp [hentry] at h
        | some n => rfl
      next => simp at h
  | cons step rest ih =>
      rw [List.cons_append, walk] at h
      split at h
      next entries hdir =>
        cases step with
        | here => exact ih h
        | up => exact ih h
        | enter entry =>
            simp only at h
            split at h
            next => simp at h
            -- A link on the way: the rest of the steps is walked from its target.
            next link hlink =>
              split at h
              next => simp at h
              next =>
                rw [← List.append_assoc] at h
                exact honLink _ _ _ h
            next => exact ih h
      next => simp at h

/-- What is reached under a name is an entry of this name in some directory. -/
theorem exists_entry_of_follow {root : Node} {name : Name} {links : Nat} {loc target : Location}
    {steps : List Step} (h : follow root links loc (steps ++ [.enter name]) = some target) :
    ∃ dir entries, root.at? dir = some (.dir entries) ∧ (entries.lookup name).isSome = true := by
  induction links generalizing loc steps target with
  | zero => exact exists_entry_of_walk (by simp) h
  | succ links ih => exact exists_entry_of_walk (fun _ _ _ => ih) h

/-- A name that no directory has is the name of no file. -/
theorem isFile_of_lacksName {t : FileTree} {name : Name} (hlacks : t.root.lacksName name = true)
    (dir : Location) : t.isFile (dir ++ [name]) = false := by
  have hnone : t.resolve? (dir ++ [name]) = none := by
    rw [Option.eq_none_iff_forall_ne_some]
    intro target htarget
    rw [resolve?, List.map_append] at htarget
    rcases exists_entry_of_follow htarget with ⟨loc, entries, hat, hentry⟩
    have hlookup := Node.everywhere_self (Node.everywhere_at? hlacks hat)
    simp only [Option.isNone_iff_eq_none] at hlookup
    simp [hlookup] at hentry
  simp [isFile, node?, hnone]

end FileTree

namespace Load

open Outcome

variable {t : FileTree} {excludes : ExcludeSet} {includeTests : Bool} {root dir : Location}

/-! ## The module of a directory -/

/-- The directories above a location are itself and those above its parent. -/
theorem ancestors_concat (loc : Location) (name : Name) :
    ancestors (loc ++ [name]) = (loc ++ [name]) :: ancestors loc := by
  unfold ancestors
  rw [List.length_append, List.length_singleton, List.range_succ, List.map_append,
    List.reverse_append]
  -- The longest start is the location, and all others are starts of its parent.
  have hself : (loc ++ [name]).take (loc.length + 1) = loc ++ [name] :=
    List.take_of_length_le (by simp)
  have hbelow : (List.range (loc.length + 1)).map (loc ++ [name]).take =
      (List.range (loc.length + 1)).map loc.take := by
    refine List.map_congr_left ?_
    intro i hi
    exact List.take_append_of_le_length (Nat.lt_succ_iff.1 (List.mem_range.1 hi))
  simp [hself, hbelow]

/-- A directory without a module file lies in the module of the directory above it. -/
theorem module?_concat {name : Name} (h : t.isFile (goModOf (dir ++ [name])) = false) :
    module? t (dir ++ [name]) = module? t dir := by
  unfold module?
  rw [ancestors_concat, List.find?_cons_of_neg (by simp [h])]

/-- Where no module file stands on the way down, the module stays the same. -/
theorem module?_append (way : List Name)
    (h : ∀ q, q ≠ [] → q <+: way → t.isFile (goModOf (root ++ q)) = false) :
    module? t (root ++ way) = module? t root := by
  induction way using List.reverseRecOn with
  | nil => rw [List.append_nil]
  | append_singleton way name ih =>
      rw [← List.append_assoc, module?_concat]
      · refine ih ?_
        intro q hq hshort
        exact h q hq (hshort.trans (List.prefix_append way [name]))
      · simpa using h (way ++ [name]) (by simp) (List.prefix_refl _)

/-! ## Import paths of packages -/

/-- The directory of a package leads to a place in the tree. -/
theorem exists_target_of_sources (h : sources t excludes includeTests root dir ≠ []) :
    ∃ target n, t.resolve? dir = some target ∧ t.root.at? target = some n := by
  cases hnode : t.node? dir with
  | none => simp [sources, FileTree.entryNames, hnode] at h
  | some n =>
      rcases Option.bind_eq_some_iff.1 hnode with ⟨target, htarget, hat⟩
      exact ⟨target, n, htarget, hat⟩

/-- The import path of a package is that of its module and the way to the place that its directory
leads to. -/
theorem importPath_of_package_eq_ok {p : LoadedPackage}
    (h : package t excludes includeTests root dir = .ok (some p)) :
    ∃ base baseImport target way,
      importRoot t root dir = .ok (base, baseImport) ∧ t.resolve? dir = some target ∧
      (t.resolve? base).getD base <+: target ∧
      (∀ name ∈ target, name ≠ [] ∧ Path.slash ∉ name) ∧
      utf8 way = joinWith Path.slash (target.drop ((t.resolve? base).getD base).length) ∧
      p.importPath = joinImportPath baseImport way ∧ p.id = p.importPath := by
  rcases package_eq_ok_iff.1 h with ⟨-, hnone⟩ | ⟨hsources, base, baseImport, way, _, hroot, hway, -, hp⟩
  · simp at hnone
  · cases hp
    rcases exists_target_of_sources hsources with ⟨target, n, htarget, hat⟩
    rw [relative_eq_ok_iff_resolved, htarget, Option.getD_some] at hway
    exact ⟨base, baseImport, target, way, hroot, htarget, hway.1, Node.isPiece_of_mem_at? t.namesArePieces hat,
      hway.2, rfl, rfl⟩

/-- A way down starts with no slash. -/
theorem head?_ne_slash_of_utf8_eq {way : String} {names : List Name}
    (hnames : ∀ name ∈ names, name ≠ [] ∧ Path.slash ∉ name)
    (hway : utf8 way = joinWith Path.slash names) : way.toList.head? ≠ some '/' := by
  intro hslash
  rcases List.head?_eq_some_iff.1 hslash with ⟨rest, hlist⟩
  have hcut : way = "/" ++ String.ofList rest := by
    rw [← String.toList_inj, hlist]
    simp
  have hbyte : (utf8 way).head? = some Path.slash := by
    rw [hcut, utf8_append]
    rfl
  exact head?_joinWith_ne hnames (hway ▸ hbyte)

/-- Two packages of one module have the same import path exactly if their directories lead to the
same place. -/
theorem importPath_eq_iff_of_importRoot {root' dir' : Location} {p q : LoadedPackage}
    (hp : package t excludes includeTests root dir = .ok (some p))
    (hq : package t excludes includeTests root' dir' = .ok (some q))
    (hsame : importRoot t root dir = importRoot t root' dir') :
    p.importPath = q.importPath ↔ t.resolve? dir = t.resolve? dir' := by
  rcases importPath_of_package_eq_ok hp with
    ⟨base, baseImport, target, way, hbase, htarget, ⟨below, rfl⟩, hnames, hway, hpath, -⟩
  rcases importPath_of_package_eq_ok hq with
    ⟨base', baseImport', target', way', hbase', htarget', hbelow', hnames', hway', hpath', -⟩
  obtain ⟨rfl, rfl⟩ : base = base' ∧ baseImport = baseImport' := by
    simpa using hbase.symm.trans (hsame.trans hbase')
  rcases hbelow' with ⟨below', rfl⟩
  -- Both lie below the same place, and their ways from there are made of proper names.
  rw [List.drop_left] at hway hway'
  have hbelow : ∀ name ∈ below, name ≠ [] ∧ Path.slash ∉ name := fun name hname =>
    hnames name (List.mem_append_right _ hname)
  have hbelow' : ∀ name ∈ below', name ≠ [] ∧ Path.slash ∉ name := fun name hname =>
    hnames' name (List.mem_append_right _ hname)
  calc p.importPath = q.importPath ↔
        joinImportPath baseImport way = joinImportPath baseImport way' := by rw [hpath, hpath']
    _ ↔ way = way' :=
        joinImportPath_inj (head?_ne_slash_of_utf8_eq hbelow hway)
          (head?_ne_slash_of_utf8_eq hbelow' hway')
    _ ↔ below = below' := by rw [← utf8_inj, hway, hway', joinWith_inj hbelow hbelow']
    _ ↔ t.resolve? dir = t.resolve? dir' := by
        rw [htarget, htarget', Option.some.injEq, List.append_cancel_left_eq]

/-! ## The packages of a pattern -/

/-- The directories of a pattern lie below its root. -/
theorem exists_way_of_mem_candidates {recursive : Bool}
    (h : dir ∈ candidates t excludes recursive root) : ∃ way, dir = root ++ way := by
  unfold candidates at h
  rcases List.mem_cons.1 h with rfl | hbelow
  · exact ⟨[], (List.append_nil _).symm⟩
  · cases recursive with
    | false => simp at hbelow
    | true =>
        rcases mem_below_iff.1 hbelow with ⟨way, -, -, hdir, -⟩
        exact ⟨way, hdir⟩

/-- With no module file below its root, a pattern is loaded as one module: two of its packages have
the same import path, which is their id too, exactly if their directories lead to the same place. So
their import paths differ unless links lead to one directory in several ways. -/
theorem importPath_eq_iff_same_directory {pattern : String} {config : Config}
    {found : List LoadedPackage}
    (hroot : rootOf t pattern = .ok root)
    (hbelow : ∀ way, way ≠ [] → t.isFile (goModOf (root ++ way)) = false)
    (hload : roots t [pattern] config = .ok found) :
    (∀ p ∈ found, p.id = p.importPath) ∧
      (∀ p ∈ found, ∀ q ∈ found,
        p.importPath = q.importPath ↔ t.resolve? p.dir = t.resolve? q.dir) ∧
      ((found.map (·.importPath)).Nodup ↔ (found.map fun p => t.resolve? p.dir).Nodup) ∧
      (t.root.isLinkFree = true → (found.map (·.importPath)).Nodup) := by
  rcases pass_of_roots_singleton hload with ⟨excludes, root', visited, -, hroot', hpass⟩
  obtain rfl : root = root' := Except.ok.inj (hroot.symm.trans hroot')
  -- No module file stands below the root, so all packages count from one place.
  have hmodule : ∀ p ∈ found, importRoot t root p.dir = importRoot t root root := by
    intro p hp
    have hdir := ((hpass.mem_dirs p.dir).1 (List.mem_map_of_mem hp)).1
    rcases exists_way_of_mem_candidates hdir with ⟨way, hway⟩
    unfold importRoot
    rw [hway, module?_append way fun q hq _ => hbelow q hq]
  have hsame : ∀ p ∈ found, ∀ q ∈ found,
      p.importPath = q.importPath ↔ t.resolve? p.dir = t.resolve? q.dir := by
    intro p hp q hq
    exact importPath_eq_iff_of_importRoot (hpass.package_eq p hp) (hpass.package_eq q hq)
      ((hmodule p hp).trans (hmodule q hq).symm)
  have hnodup : (found.map (·.importPath)).Nodup ↔
      (found.map fun p => t.resolve? p.dir).Nodup := by
    simp only [List.Nodup, List.pairwise_map]
    constructor
    · exact fun h => h.imp_of_mem fun hp hq hne heq => hne ((hsame _ hp _ hq).2 heq)
    · exact fun h => h.imp_of_mem fun hp hq hne heq => hne ((hsame _ hp _ hq).1 heq)
  refine ⟨?_, hsame, hnodup, ?_⟩
  · intro p hp
    rcases importPath_of_package_eq_ok (hpass.package_eq p hp) with
      ⟨_, _, _, _, -, -, -, -, -, -, hid⟩
    exact hid
  · intro hfree
    refine hnodup.2 ?_
    have hdirs := hpass.nodup_dirs
    simp only [List.Nodup, List.pairwise_map] at hdirs ⊢
    refine hdirs.imp_of_mem ?_
    -- Without links, different directories resolve to different places.
    intro p q hp hq hne heq
    rcases importPath_of_package_eq_ok (hpass.package_eq p hp) with
      ⟨_, _, target, _, -, htarget, -⟩
    refine hne ?_
    calc p.dir = target := (FileTree.eq_of_resolve? hfree htarget).symm
      _ = q.dir := FileTree.eq_of_resolve? hfree (heq ▸ htarget)

/-- A directory with a source in it, and a link to the directory beside it. -/
def linkedTree : FileTree :=
  { root := .dir
      [(utf8 "ws", .dir
        [(utf8 "real", .dir [(utf8 "a.go", .file .empty)]), (utf8 "alias", .link (utf8 "real"))])]
    home := [utf8 "ws"] }

/-- The directory is loaded twice, once behind the link, under one import path. -/
theorem roots_linkedTree :
    ∃ p q, roots linkedTree ["./..."] {} = .ok [p, q] ∧ p.dir = [utf8 "ws", utf8 "alias"] ∧
      q.dir = [utf8 "ws", utf8 "real"] ∧ p.importPath = "ws/real" ∧ q.importPath = "ws/real" := by
  refine
    ⟨⟨"ws/real", "alias", "ws/real", [utf8 "ws", utf8 "alias"],
        [⟨"real/a.go", "", Source.File.parse ""⟩]⟩,
      ⟨"ws/real", "real", "ws/real", [utf8 "ws", utf8 "real"],
        [⟨"real/a.go", "", Source.File.parse ""⟩]⟩, by decide +kernel, rfl, rfl, rfl, rfl⟩

theorem rootOf_linkedTree : rootOf linkedTree "./..." = .ok [utf8 "ws"] := by
  decide +kernel

theorem isFile_goModOf_linkedTree (dir : Location) : linkedTree.isFile (goModOf dir) = false :=
  FileTree.isFile_of_lacksName (by decide) dir

/-- The two packages share their import path because both lead to one directory. -/
theorem importPath_eq_iff_same_directory_linkedTree :
    rootOf linkedTree "./..." = .ok [utf8 "ws"] ∧
      ∃ p q, roots linkedTree ["./..."] {} = .ok [p, q] ∧ p.dir ≠ q.dir ∧
        p.id = p.importPath ∧ p.importPath = q.importPath ∧
        linkedTree.resolve? p.dir = linkedTree.resolve? q.dir := by
  rcases roots_linkedTree with ⟨p, q, hload, hp, hq, hpath, hpath'⟩
  rcases importPath_eq_iff_same_directory rootOf_linkedTree
    (fun way _ => isFile_goModOf_linkedTree _) hload with ⟨hid, hsame, -⟩
  have hboth : p.importPath = q.importPath := hpath.trans hpath'.symm
  refine ⟨rootOf_linkedTree, p, q, hload, ?_, hid p (by simp), hboth, ?_⟩
  · rw [hp, hq]
    decide
  · exact (hsame p (by simp) q (by simp)).1 hboth

/-- A directory that a link leads to as well is loaded twice, under one import path. -/
theorem importPath_repeats_behind_link :
    ¬ ∀ (t : FileTree) (pattern : String) (config : Config) (root : Location)
        (found : List LoadedPackage),
        rootOf t pattern = .ok root →
        (∀ way, way ≠ [] → t.isFile (goModOf (root ++ way)) = false) →
        roots t [pattern] config = .ok found →
        (found.map (·.importPath)).Nodup ∧ (found.map (·.id)).Nodup := by
  intro hclaim
  rcases roots_linkedTree with ⟨p, q, hload, -, -, hpath, hpath'⟩
  have hnodup := hclaim linkedTree "./..." {} [utf8 "ws"] [p, q] rootOf_linkedTree
    (fun way _ => isFile_goModOf_linkedTree _) hload
  simp [hpath, hpath'] at hnodup

end Load
end GoSurvey
