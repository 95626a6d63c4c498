import GoSurvey.Proofs.LoadedPackages

/-!
# Patterns that overlap

Several patterns may reach one directory. The load looks at it once, from the root of the first of
them, and the paths that are excluded are counted from there.

* `Load.Pass`, `Load.pass_of_packages_eq_ok` — what a pass over directories visits and finds;
* `Load.FirstToReach` — that a pattern is the first of a list to reach a directory;
* `Load.mem_dirs_roots_iff` — the directories of the packages that a list of patterns loads;
* `Load.roots_loads_unless_first_excludes` — a package of one pattern is missing from the load of a
  list only where the first pattern to reach it excludes all its sources.
-/

namespace GoSurvey
namespace Load

open Text Outcome

variable {t : FileTree} {excludes : ExcludeSet} {includeTests : Bool} {root dir : Location}

/-! ## One pass -/

/-- What a pass over directories does: it visits all of them, and finds the packages of those that
were not visited before and have sources. -/
structure Pass (t : FileTree) (excludes : ExcludeSet) (includeTests : Bool) (root : Location)
    (visited dirs : List Location) (found : List LoadedPackage) (visited' : List Location) :
    Prop where
  mem_visited : ∀ dir, dir ∈ visited' ↔ dir ∈ visited ∨ dir ∈ dirs
  package_eq : ∀ p ∈ found, package t excludes includeTests root p.dir = .ok (some p)
  mem_dirs : ∀ dir, dir ∈ found.map (·.dir) ↔
    dir ∈ dirs ∧ dir ∉ visited ∧ sourceNames t excludes includeTests root dir ≠ []
  nodup_dirs : (found.map (·.dir)).Nodup

section Steps

variable {visited visited' dirs : List Location} {found : List LoadedPackage}

theorem Pass.nil (visited : List Location) :
    Pass t excludes includeTests root visited [] [] visited :=
  ⟨by simp, by simp, by simp, by simp⟩

/-- A directory that was visited adds nothing. -/
theorem Pass.skip (hdir : dir ∈ visited)
    (h : Pass t excludes includeTests root visited dirs found visited') :
    Pass t excludes includeTests root visited (dir :: dirs) found visited' where
  mem_visited d := by
    rw [h.mem_visited, List.mem_cons]
    constructor
    · exact fun hd => hd.imp_right Or.inr
    · rintro (hd | rfl | hd)
      · exact Or.inl hd
      · exact Or.inl hdir
      · exact Or.inr hd
  package_eq := h.package_eq
  mem_dirs d := by
    rw [h.mem_dirs, List.mem_cons]
    constructor
    · exact fun hd => ⟨Or.inr hd.1, hd.2⟩
    · rintro ⟨rfl | hd, hnot, hsources⟩
      · exact absurd hdir hnot
      · exact ⟨hd, hnot, hsources⟩
  nodup_dirs := h.nodup_dirs

/-- A directory holds a package exactly if it has sources. -/
theorem package_cases {result : Option LoadedPackage}
    (h : package t excludes includeTests root dir = .ok result) :
    (sourceNames t excludes includeTests root dir = [] ∧ result = none) ∨
      (sourceNames t excludes includeTests root dir ≠ [] ∧
        ∃ p, result = some p ∧ p.dir = dir) := by
  rcases package_eq_ok_iff.1 h with ⟨hnone, rfl⟩ | ⟨hsome, _, _, _, _, -, -, -, rfl⟩
  · exact Or.inl ⟨by simpa [sources_eq_map] using hnone, rfl⟩
  · exact Or.inr ⟨by simpa [sources_eq_map] using hsome, _, rfl, rfl⟩

/-- A new directory is visited for good, whether it yields a package or not. -/
theorem Pass.cons (hdir : dir ∉ visited) {result : Option LoadedPackage}
    (hresult : package t excludes includeTests root dir = .ok result)
    (h : Pass t excludes includeTests root (dir :: visited) dirs found visited') :
    Pass t excludes includeTests root visited (dir :: dirs) (result.toList ++ found) visited' := by
  have hvisited : ∀ d, d ∈ visited' ↔ d ∈ visited ∨ d ∈ dir :: dirs := by
    intro d
    rw [h.mem_visited, List.mem_cons, List.mem_cons]
    tauto
  -- The later packages are those of other directories.
  have hlater : ∀ d, d ∈ found.map (·.dir) ↔
      d ≠ dir ∧ d ∈ dirs ∧ d ∉ visited ∧ sourceNames t excludes includeTests root d ≠ [] := by
    intro d
    rw [h.mem_dirs, List.mem_cons]
    tauto
  rcases package_cases hresult with ⟨hnone, rfl⟩ | ⟨hsome, p, rfl, rfl⟩
  · refine ⟨hvisited, h.package_eq, ?_, h.nodup_dirs⟩
    intro d
    simp only [Option.toList_none, List.nil_append, hlater, List.mem_cons]
    constructor
    · exact fun hd => ⟨Or.inr hd.2.1, hd.2.2⟩
    · rintro ⟨rfl | hd, hnot, hsources⟩
      · exact absurd hnone hsources
      · exact ⟨fun heq => hsources (heq ▸ hnone), hd, hnot, hsources⟩
  · refine ⟨hvisited, ?_, ?_, ?_⟩
    · intro q hq
      rcases List.mem_cons.1 hq with rfl | hq
      · exact hresult
      · exact h.package_eq q hq
    · intro d
      simp only [Option.toList_some, List.singleton_append, List.map_cons, List.mem_cons, hlater]
      by_cases heq : d = p.dir
      · subst heq
        exact ⟨fun _ => ⟨Or.inl rfl, hdir, hsome⟩, fun _ => Or.inl rfl⟩
      · simp [heq]
    · refine List.nodup_cons.2 ⟨?_, h.nodup_dirs⟩
      exact fun hmem => ((hlater p.dir).1 hmem).1 rfl

end Steps

/-- The pass over the directories of one pattern, as a relation. -/
theorem pass_of_packages_eq_ok {visited visited' dirs : List Location}
    {found : List LoadedPackage}
    (h : packages t excludes includeTests root visited dirs = .ok (found, visited')) :
    Pass t excludes includeTests root visited dirs found visited' := by
  induction dirs generalizing visited found with
  | nil =>
      cases h
      exact Pass.nil _
  | cons dir rest ih =>
      by_cases hdir : dir ∈ visited
      · rw [packages_cons_of_mem hdir] at h
        exact (ih h).skip hdir
      · rcases (packages_cons_eq_ok_iff hdir).1 h with ⟨result, later, hresult, hlater, rfl⟩
        exact (ih hlater).cons hdir hresult

/-- The pass of a single pattern, as a relation. -/
theorem pass_of_roots_singleton {pattern : String} {config : Config} {found : List LoadedPackage}
    (h : roots t [pattern] config = .ok found) :
    ∃ excludes root visited,
      ExcludeSet.parse config.exclude = .ok excludes ∧ rootOf t pattern = .ok root ∧
      Pass t excludes config.includeTests root []
        (candidates t excludes (Pattern.ofText pattern).recursive root) found visited := by
  rcases roots_singleton_eq_ok_iff.1 h with ⟨excludes, root, visited, hparse, hroot, hpass⟩
  exact ⟨excludes, root, visited, hparse, hroot, pass_of_packages_eq_ok hpass⟩

/-! ## The first pattern to reach a directory -/

/-- Whether a load of the pattern looks at the directory, from a root. -/
def Reaches (t : FileTree) (excludes : ExcludeSet) (text : String) (root dir : Location) : Prop :=
  rootOf t text = .ok root ∧ dir ∈ candidates t excludes (Pattern.ofText text).recursive root

/-- Whether a pattern of a list reaches the directory from a root, and none before it does. -/
def FirstToReach (t : FileTree) (excludes : ExcludeSet) (texts : List String) (text : String)
    (root dir : Location) : Prop :=
  ∃ before after, texts = before ++ text :: after ∧ Reaches t excludes text root dir ∧
    ∀ earlier ∈ before, ∀ root', ¬ Reaches t excludes earlier root' dir

section Reaching

variable {text first : String} {rest : List String}

theorem firstToReach_of_reaches (h : Reaches t excludes first root dir) :
    FirstToReach t excludes (first :: rest) first root dir :=
  ⟨[], rest, rfl, h, by simp⟩

theorem FirstToReach.cons (hfirst : ∀ root', ¬ Reaches t excludes first root' dir)
    (h : FirstToReach t excludes rest text root dir) :
    FirstToReach t excludes (first :: rest) text root dir := by
  rcases h with ⟨before, after, rfl, hreaches, hbefore⟩
  refine ⟨first :: before, after, rfl, hreaches, ?_⟩
  exact List.forall_mem_cons.2 ⟨hfirst, hbefore⟩

/-- A later pattern is the first to reach a directory only where the one before it does not. -/
theorem firstToReach_cons_iff :
    FirstToReach t excludes (first :: rest) text root dir ↔
      (text = first ∧ Reaches t excludes first root dir) ∨
        ((∀ root', ¬ Reaches t excludes first root' dir) ∧
          FirstToReach t excludes rest text root dir) := by
  constructor
  · rintro ⟨before, after, htexts, hreaches, hbefore⟩
    cases before with
    | nil =>
        obtain ⟨rfl, rfl⟩ := List.cons.inj htexts
        exact Or.inl ⟨rfl, hreaches⟩
    | cons head before =>
        obtain ⟨rfl, rfl⟩ := List.cons.inj htexts
        have hparts := List.forall_mem_cons.1 hbefore
        exact Or.inr ⟨hparts.1, before, after, rfl, hreaches, hparts.2⟩
  · rintro (⟨rfl, hreaches⟩ | ⟨hfirst, hrest⟩)
    · exact firstToReach_of_reaches hreaches
    · exact hrest.cons hfirst

/-- The first pattern to reach a directory fixes the root it is looked at from. -/
theorem FirstToReach.root_unique {texts : List String} {text' : String} {root' : Location}
    (h : FirstToReach t excludes texts text root dir)
    (h' : FirstToReach t excludes texts text' root' dir) : root = root' := by
  induction texts with
  | nil => simp [FirstToReach] at h
  | cons first rest ih =>
      rcases firstToReach_cons_iff.1 h with ⟨-, hreaches⟩ | ⟨hnot, hrest⟩
      · rcases firstToReach_cons_iff.1 h' with ⟨-, hreaches'⟩ | ⟨hnot, -⟩
        · exact Except.ok.inj (hreaches.1.symm.trans hreaches'.1)
        · exact absurd hreaches (hnot root)
      · rcases firstToReach_cons_iff.1 h' with ⟨-, hreaches'⟩ | ⟨-, hrest'⟩
        · exact absurd hreaches' (hnot root')
        · exact ih hrest hrest'

/-- If some pattern of a list reaches a directory, one of them is the first to do so. -/
theorem exists_firstToReach {texts : List String} (htext : text ∈ texts)
    (hreaches : Reaches t excludes text root dir) :
    ∃ first root', FirstToReach t excludes texts first root' dir := by
  induction texts with
  | nil => simp at htext
  | cons head rest ih =>
      by_cases hhead : ∃ root', Reaches t excludes head root' dir
      · rcases hhead with ⟨root', hhead⟩
        exact ⟨head, root', firstToReach_of_reaches hhead⟩
      · have hnot : ∀ root', ¬ Reaches t excludes head root' dir := not_exists.1 hhead
        have hrest : text ∈ rest := by
          rcases List.mem_cons.1 htext with rfl | hrest
          · exact absurd hreaches (hnot root)
          · exact hrest
        rcases ih hrest with ⟨first, root', hfirst⟩
        exact ⟨first, root', hfirst.cons hnot⟩

end Reaching

/-! ## The load of a list of patterns -/

/-- A directory is loaded when the first pattern to reach it finds sources there. -/
theorem mem_dirs_patterns_iff {visited : List Location} {texts : List String}
    {found : List LoadedPackage}
    (h : patterns t excludes includeTests visited texts = .ok found) (dir : Location) :
    dir ∈ found.map (·.dir) ↔
      dir ∉ visited ∧ ∃ text root, FirstToReach t excludes texts text root dir ∧
        sourceNames t excludes includeTests root dir ≠ [] := by
  -- By induction on the patterns; what the first one reaches is visited for all later ones.
  induction texts generalizing visited found with
  | nil =>
      cases h
      simp [FirstToReach]
  | cons first rest ih =>
      rcases patterns_cons_eq_ok_iff.1 h with
        ⟨root, here, visited', later, hroot, hhere, hlater, rfl⟩
      have hpass := pass_of_packages_eq_ok hhere
      have hreaches : ∀ root', Reaches t excludes first root' dir ↔ root' = root ∧
          dir ∈ candidates t excludes (Pattern.ofText first).recursive root := by
        intro root'
        constructor
        · rintro ⟨hroot', hmem⟩
          obtain rfl : root = root' := Except.ok.inj (hroot.symm.trans hroot')
          exact ⟨rfl, hmem⟩
        · rintro ⟨rfl, hmem⟩
          exact ⟨hroot, hmem⟩
      rw [List.map_append, List.mem_append, hpass.mem_dirs, ih hlater, hpass.mem_visited]
      constructor
      · rintro (⟨hmem, hnot, hsources⟩ | ⟨hnot, text, root', hfirst, hsources⟩)
        · exact ⟨hnot, first, root, firstToReach_of_reaches ⟨hroot, hmem⟩, hsources⟩
        · refine ⟨fun hvisited => hnot (Or.inl hvisited), text, root', ?_, hsources⟩
          refine hfirst.cons ?_
          intro root'' hreach
          exact hnot (Or.inr ((hreaches root'').1 hreach).2)
      · rintro ⟨hnot, text, root', hfirst, hsources⟩
        rcases firstToReach_cons_iff.1 hfirst with ⟨-, hreach⟩ | ⟨hunreached, hrest⟩
        · rcases (hreaches root').1 hreach with ⟨rfl, hmem⟩
          exact Or.inl ⟨hmem, hnot, hsources⟩
        · refine Or.inr ⟨?_, text, root', hrest, hsources⟩
          rintro (hvisited | hmem)
          · exact hnot hvisited
          · exact hunreached root ((hreaches root).2 ⟨rfl, hmem⟩)

/-- The packages that a list of patterns loads are in the directories in which the first pattern to
reach them finds sources. -/
theorem mem_dirs_roots_iff {texts : List String} (htexts : texts ≠ []) {config : Config}
    {found : List LoadedPackage} (h : roots t texts config = .ok found) :
    ∃ excludes, ExcludeSet.parse config.exclude = .ok excludes ∧
      ∀ dir, dir ∈ found.map (·.dir) ↔
        ∃ text root, FirstToReach t excludes texts text root dir ∧
          sourceNames t excludes config.includeTests root dir ≠ [] := by
  rcases (roots_eq_ok_iff_of_ne_nil htexts).1 h with ⟨excludes, hparse, hpatterns⟩
  refine ⟨excludes, hparse, ?_⟩
  intro dir
  simpa using mem_dirs_patterns_iff hpatterns dir

/-! ## Packages that a list misses -/

theorem parse_nil : ExcludeSet.parse [] = .ok ⟨[]⟩ := rfl

/-- A file that one root takes for a source and another does not is excluded by its path from the
other. -/
theorem isExcluded_of_not_mem {root' : Location} {name : Name}
    (h : name ∈ sourceNames t excludes includeTests root dir)
    (h' : name ∉ sourceNames t excludes includeTests root' dir) :
    isExcluded excludes root' (dir ++ [name]) = true := by
  rcases List.mem_filter.1 h with ⟨hname, hselected⟩
  simp only [Bool.and_eq_true, Bool.not_eq_true'] at hselected
  by_contra hkept
  refine h' (List.mem_filter.2 ⟨hname, ?_⟩)
  simpa [hselected.1] using hkept

/-- A package that a load of one pattern returns lies in a directory that a load of any list with
this pattern looks at, from the root of the first pattern that reaches it. The list has a package
there exactly if sources are found from that root. Where it has none, there are exclude patterns,
the root is another one, and every source of the package is excluded by its path from it. -/
theorem roots_loads_unless_first_excludes {texts : List String} {config : Config}
    {found : List LoadedPackage} (hload : roots t texts config = .ok found) {text : String}
    (htext : text ∈ texts) {alone : List LoadedPackage}
    (halone : roots t [text] config = .ok alone) {p : LoadedPackage} (hp : p ∈ alone) :
    ∃ excludes own first root,
      ExcludeSet.parse config.exclude = .ok excludes ∧
      Reaches t excludes text own p.dir ∧
      FirstToReach t excludes texts first root p.dir ∧
      ((∃ q ∈ found, q.dir = p.dir) ↔
        sourceNames t excludes config.includeTests root p.dir ≠ []) ∧
      ((¬ ∃ q ∈ found, q.dir = p.dir) →
        config.exclude ≠ [] ∧ root ≠ own ∧
          ∀ name ∈ sourceNames t excludes config.includeTests own p.dir,
            isExcluded excludes root (p.dir ++ [name]) = true) := by
  rcases mem_dirs_roots_iff (List.ne_nil_of_mem htext) hload with ⟨excludes, hparse, hfound⟩
  rcases mem_dirs_roots_iff (List.cons_ne_nil text []) halone with ⟨excludes', hparse', hown⟩
  obtain rfl : excludes = excludes' := Except.ok.inj (hparse.symm.trans hparse')
  rcases (hown p.dir).1 (List.mem_map_of_mem hp) with ⟨single, own, hsingle, hsources⟩
  have hreaches : Reaches t excludes text own p.dir := by
    rcases firstToReach_cons_iff.1 hsingle with ⟨-, hreaches⟩ | ⟨-, before, _, hnil, -⟩
    · exact hreaches
    · simp at hnil
  rcases exists_firstToReach htext hreaches with ⟨first, root, hfirst⟩
  have hloaded : (∃ q ∈ found, q.dir = p.dir) ↔
      sourceNames t excludes config.includeTests root p.dir ≠ [] := by
    refine List.mem_map.symm.trans ((hfound p.dir).trans ?_)
    constructor
    · rintro ⟨other, root', hother, hnames⟩
      rwa [hother.root_unique hfirst] at hnames
    · exact fun hnames => ⟨first, root, hfirst, hnames⟩
  refine ⟨excludes, own, first, root, hparse, hreaches, hfirst, hloaded, ?_⟩
  -- What the earlier pattern left out of the directory is everything its own pattern finds there.
  intro hmissing
  have hnone : sourceNames t excludes config.includeTests root p.dir = [] := by
    by_contra hnames
    exact hmissing (hloaded.2 hnames)
  have hexcluded : ∀ name ∈ sourceNames t excludes config.includeTests own p.dir,
      isExcluded excludes root (p.dir ++ [name]) = true := by
    intro name hname
    exact isExcluded_of_not_mem hname (by simp [hnone])
  refine ⟨?_, ?_, hexcluded⟩
  · intro hnil
    rcases List.exists_mem_of_ne_nil _ hsources with ⟨name, hname⟩
    rw [hnil, parse_nil] at hparse
    cases hparse
    simpa [isExcluded, ExcludeSet.excludesPath, ExcludeSet.excludes] using hexcluded name hname
  · rintro rfl
    exact hsources hnone

def nestedTree : FileTree :=
  { root := .dir [(utf8 "b", .dir [(utf8 "x.go", .file .empty)])]
    home := [] }

/-- Leaves the source out where it is looked at from the root of the tree. -/
def nestedConfig : Config :=
  { exclude := ["b/x.go"] }

/-- The pattern `./...` visits `b` without a package, which hides it from the pattern `b`. -/
theorem roots_nestedTree :
    roots nestedTree ["./...", "b"] nestedConfig = .ok [] ∧
      roots nestedTree ["./..."] nestedConfig = .ok [] ∧
      ∃ p, roots nestedTree ["b"] nestedConfig = .ok [p] ∧ p.dir = [utf8 "b"] := by
  refine ⟨by decide +kernel, by decide +kernel, ?_⟩
  refine ⟨⟨"b", "b", "b", [utf8 "b"], [⟨"x.go", "", Source.File.parse ""⟩]⟩, by decide +kernel, rfl⟩

/-- The file of `b` is excluded as seen from the root of the tree, not from `b` itself. -/
theorem roots_loads_unless_first_excludes_nestedTree :
    ∃ p, roots nestedTree ["b"] nestedConfig = .ok [p] ∧
      roots nestedTree ["./...", "b"] nestedConfig = .ok [] ∧
      ∃ excludes own first root,
        Reaches nestedTree excludes "b" own p.dir ∧
        FirstToReach nestedTree excludes ["./...", "b"] first root p.dir ∧ root ≠ own ∧
        ∀ name ∈ sourceNames nestedTree excludes nestedConfig.includeTests own p.dir,
          isExcluded excludes root (p.dir ++ [name]) = true := by
  rcases roots_nestedTree with ⟨hboth, -, p, hsecond, -⟩
  refine ⟨p, hsecond, hboth, ?_⟩
  rcases roots_loads_unless_first_excludes hboth (by simp) hsecond (List.mem_singleton_self p) with
    ⟨excludes, own, first, root, -, hreaches, hfirst, -, hmissing⟩
  rcases hmissing (by simp) with ⟨-, hroot, hexcluded⟩
  exact ⟨excludes, own, first, root, hreaches, hfirst, hroot, hexcluded⟩

/-- The first of two patterns reaches the directory of the second, and leaves nothing for it: both
load by themselves, and so does the list, but without the package of the second. -/
theorem roots_misses_nested_package :
    ¬ ∀ (t : FileTree) (texts : List String) (config : Config) (found : List LoadedPackage),
        texts ≠ [] → roots t texts config = .ok found →
        (∀ text ∈ texts, ∃ alone, roots t [text] config = .ok alone) →
        ∀ text ∈ texts, ∀ alone, roots t [text] config = .ok alone →
          ∀ p ∈ alone, ∃ q ∈ found, q.dir = p.dir := by
  intro hclaim
  rcases roots_nestedTree with ⟨hboth, hfirst, p, hsecond, -⟩
  have hall : ∀ text ∈ ["./...", "b"], ∃ alone, roots nestedTree [text] nestedConfig = .ok alone := by
    intro text htext
    rcases List.mem_cons.1 htext with rfl | htext
    · exact ⟨_, hfirst⟩
    · obtain rfl := List.mem_singleton.1 htext
      exact ⟨_, hsecond⟩
  rcases hclaim nestedTree ["./...", "b"] nestedConfig [] (by simp) hboth hall "b" (by simp) [p]
    hsecond p (by simp) with ⟨q, hq, -⟩
  simp at hq

end Load
end GoSurvey
