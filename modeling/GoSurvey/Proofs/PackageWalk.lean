import GoSurvey.Load
import GoSurvey.Proofs.PlainTree

/-!
# The walk below a root

The directories that may hold packages, described without the walk that finds them.

* `Load.Opens` — a way down from a directory that the walk takes step by step;
* `Load.mem_below_iff` — the walk finds exactly the ends of such ways;
* `Load.below_increasing` — it finds them in the order of their locations, each once;
* `Load.Candidate`, `Load.mem_candidates_iff` — in a tree without links: the root, and the
  directories below it to which no ignored or excluded directory leads.
-/

namespace GoSurvey

open Text

/-- The order of locations: the first name that differs decides, and a directory comes before all
below it. -/
def Location.Before (a b : Location) : Prop :=
  List.Lex Name.Before a b

namespace Location

/-- A directory comes before what is inside of it. -/
theorem before_append {way : List Name} (loc : Location) (hway : way ≠ []) :
    Before loc (loc ++ way) := by
  induction loc with
  | nil =>
      cases way with
      | nil => exact absurd rfl hway
      | cons name rest => exact List.Lex.nil
  | cons name loc ih => exact List.Lex.cons ih

/-- Directories side by side come in the order of their names, with all they contain. -/
theorem before_of_name_before {a b : Name} (h : Name.Before a b) (loc way way' : Location) :
    Before (loc ++ a :: way) (loc ++ b :: way') := by
  induction loc with
  | nil => exact List.Lex.rel h
  | cons name loc ih => exact List.Lex.cons ih

theorem not_before_self (loc : Location) : ¬ Before loc loc :=
  List.lex_irrefl (fun name => List.lex_irrefl (fun byte => UInt8.lt_irrefl byte) name) loc

theorem nodup_of_increasing {locs : List Location} (h : locs.Pairwise Before) : locs.Nodup := by
  refine h.imp ?_
  intro a b hbefore heq
  subst heq
  exact not_before_self a hbefore

end Location

namespace Load

variable {t : FileTree} {excludes : ExcludeSet} {root dir loc : Location}

/-! ## Ways down -/

/-- Whether the walk below a root goes down from a directory through entries of these names. -/
def Opens (t : FileTree) (excludes : ExcludeSet) (root : Location) : Location → List Name → Prop
  | _, [] => True
  | dir, name :: rest =>
      name ∈ t.entryNames dir ∧ enters t excludes root dir name = true ∧
        Opens t excludes root (dir ++ [name]) rest

/-- The walk to a depth finds exactly the ends of the ways that are no longer. -/
theorem mem_below_iff {depth : Nat} :
    loc ∈ below t excludes root depth dir ↔
      ∃ way, way ≠ [] ∧ way.length ≤ depth ∧ loc = dir ++ way ∧ Opens t excludes root dir way := by
  -- One level of the walk is one name of the way.
  induction depth generalizing dir with
  | zero =>
      constructor
      · intro hloc
        simp [below] at hloc
      · intro h
        rcases h with ⟨way, hway, hlength, -, -⟩
        exact absurd (List.length_eq_zero_iff.1 (Nat.le_zero.1 hlength)) hway
  | succ depth ih =>
      rw [below, List.mem_flatMap]
      constructor
      · intro h
        rcases h with ⟨name, hname, hloc⟩
        by_cases henters : enters t excludes root dir name = true
        · rw [if_pos henters, List.mem_cons] at hloc
          rcases hloc with rfl | hbelow
          · exact ⟨[name], by simp, by simp, rfl, hname, henters, trivial⟩
          · rcases ih.1 hbelow with ⟨way, -, hlength, rfl, hopens⟩
            exact ⟨name :: way, by simp, by simpa using hlength, by simp, hname, henters, hopens⟩
        · simp [henters] at hloc
      · intro h
        rcases h with ⟨way, hway, hlength, rfl, hopens⟩
        cases way with
        | nil => exact absurd rfl hway
        | cons name rest =>
            rcases hopens with ⟨hname, henters, hrest⟩
            refine ⟨name, hname, ?_⟩
            rw [if_pos henters, List.mem_cons]
            cases rest with
            | nil => exact Or.inl rfl
            | cons next rest =>
                refine Or.inr (ih.2 ⟨next :: rest, by simp, ?_, by simp, hrest⟩)
                simpa using hlength

/-- The walk goes through a directory before all that is below it, and through the entries of a
directory in the order of their names: it finds locations in increasing order. -/
theorem below_increasing (depth : Nat) (dir : Location) :
    (below t excludes root depth dir).Pairwise Location.Before := by
  induction depth generalizing dir with
  | zero => exact List.Pairwise.nil
  | succ depth ih =>
      rw [below, List.pairwise_flatMap]
      -- All that is found through an entry starts with the entry's name.
      have hblock : ∀ name, ∀ x ∈ (if enters t excludes root dir name then
            (dir ++ [name]) :: below t excludes root depth (dir ++ [name]) else []),
          ∃ way, x = dir ++ name :: way := by
        intro name x hx
        by_cases henters : enters t excludes root dir name = true
        · rw [if_pos henters, List.mem_cons] at hx
          rcases hx with rfl | hbelow
          · exact ⟨[], rfl⟩
          · rcases mem_below_iff.1 hbelow with ⟨way, -, -, rfl, -⟩
            exact ⟨way, by simp⟩
        · simp [henters] at hx
      constructor
      · intro name _
        by_cases henters : enters t excludes root dir name = true
        · rw [if_pos henters, List.pairwise_cons]
          refine ⟨?_, ih (dir ++ [name])⟩
          intro x hx
          rcases mem_below_iff.1 hx with ⟨way, hway, -, rfl, -⟩
          exact Location.before_append (dir ++ [name]) hway
        · simp [henters]
      · refine (t.entryNames_increasing dir).imp ?_
        intro a b hab x hx y hy
        rcases hblock a x hx with ⟨way, rfl⟩
        rcases hblock b y hy with ⟨way', rfl⟩
        exact Location.before_of_name_before hab dir way way'

/-! ## Candidates in a tree without links -/

def IgnoredName (name : Name) : Prop :=
  ∃ s : String, utf8 s = name ∧
    (s = "testdata" ∨ s = "vendor" ∨ s.toList.head? = some '.' ∨ s.toList.head? = some '_')

/-- The root of a pattern, and if the pattern is recursive the directories below it for which no
directory on the way, the root not counted, has an ignored name or is excluded by its path from the
root. -/
def Candidate (t : FileTree) (excludes : ExcludeSet) (recursive : Bool) (root dir : Location) :
    Prop :=
  dir = root ∨
    (recursive = true ∧ ∃ way, dir = root ++ way ∧
      (∃ entries, t.root.at? dir = some (.dir entries)) ∧
      ∀ (q : List Name) (name : Name), q ++ [name] <+: way →
        ¬ IgnoredName name ∧
          excludes.excludesPath (FileTree.displayRelative (q ++ [name])) = false)

/-- A name that is no text is read as the empty one, which is not ignored. -/
theorem isIgnoredDirName_iff {name : Name} :
    isIgnoredDirName ((ofUtf8? name).getD "") = true ↔ IgnoredName name := by
  constructor
  · intro h
    cases htext : ofUtf8? name with
    | none => simp [htext, isIgnoredDirName] at h
    | some s =>
        refine ⟨s, ofUtf8?_eq_some_iff.1 htext, ?_⟩
        simpa [htext, isIgnoredDirName, or_assoc] using h
  · intro hignored
    rcases hignored with ⟨s, htext, hs⟩
    have hsome : ofUtf8? name = some s := ofUtf8?_eq_some_iff.2 htext
    simpa [hsome, isIgnoredDirName, or_assoc] using hs

/-- On a link-free tree the walk enters every directory that is neither ignored nor excluded. -/
theorem enters_iff (hfree : t.root.isLinkFree = true) {q : List Name} {name : Name} :
    enters t excludes root (root ++ q) name = true ↔
      (∃ entries, t.root.at? (root ++ q ++ [name]) = some (.dir entries)) ∧
        ¬ IgnoredName name ∧
          excludes.excludesPath (FileTree.displayRelative (q ++ [name])) = false := by
  have hpath : (root ++ q ++ [name]).drop root.length = q ++ [name] := by simp
  simp only [enters, isExcluded, hpath, Bool.and_eq_true, Bool.not_eq_true', and_assoc,
    FileTree.isDir_iff hfree, ← isIgnoredDirName_iff, Bool.not_eq_true]

/-- A way that is open leads through directories only, none of them barred. -/
theorem opens_iff (hfree : t.root.isLinkFree = true) {q way : List Name}
    (hdir : ∃ entries, t.root.at? (root ++ q) = some (.dir entries)) :
    Opens t excludes root (root ++ q) way ↔
      (∃ entries, t.root.at? (root ++ q ++ way) = some (.dir entries)) ∧
        ∀ (p : List Name) (name : Name), p ++ [name] <+: way →
          ¬ IgnoredName name ∧
            excludes.excludesPath (FileTree.displayRelative (q ++ p ++ [name])) = false := by
  -- By induction on the way, with the part `q` that is already behind growing by one name a step.
  induction way generalizing q with
  | nil => simpa [Opens] using hdir
  | cons name rest ih =>
      have hassoc : root ++ q ++ [name] = root ++ (q ++ [name]) := by simp
      constructor
      · intro h
        rcases h with ⟨-, henters, hrest⟩
        rcases (enters_iff hfree).1 henters with ⟨hnext, hfirst⟩
        rw [hassoc] at hnext hrest
        rcases (ih hnext).1 hrest with ⟨hend, hlater⟩
        refine ⟨by simpa using hend, ?_⟩
        intro p last hprefix
        cases p with
        | nil =>
            have hsame : last = name := by simpa using hprefix
            subst hsame
            simpa using hfirst
        | cons first p =>
            rcases List.cons_prefix_cons.1 hprefix with ⟨rfl, hp⟩
            simpa using hlater p last hp
      · intro h
        rcases h with ⟨hend, hway⟩
        have hnext : ∃ entries, t.root.at? (root ++ (q ++ [name])) = some (.dir entries) := by
          cases rest with
          | nil => simpa using hend
          | cons next rest =>
              rcases hend with ⟨entries, hat⟩
              exact Node.exists_dir_of_at?_append (by simpa using hat)
        have hname : name ∈ t.entryNames (root ++ q) := by
          rcases hnext with ⟨entries, hat⟩
          exact (FileTree.mem_entryNames_iff hfree).2 ⟨_, by simpa using hat⟩
        have hfirst := hway [] name (by simp)
        refine ⟨hname, (enters_iff hfree).2 ⟨by simpa using hnext, by simpa using hfirst⟩, ?_⟩
        rw [hassoc]
        refine (ih hnext).2 ⟨by simpa using hend, ?_⟩
        intro p last hp
        simpa using hway (name :: p) last (List.cons_prefix_cons.2 ⟨rfl, hp⟩)

/-- No location of the tree is longer than the bound of the walk. -/
theorem length_le_depthBound {n : Node} (h : t.root.at? loc = some n) :
    loc.length ≤ depthBound t := by
  -- Of all the rounds that links may add to the bound, one is enough here.
  have hheight := Node.length_add_height_le h
  have hbound : t.root.height ≤ depthBound t := by
    unfold depthBound
    calc t.root.height ≤ 1 * (t.root.height + 1) := by omega
      _ ≤ (FileTree.maxLinks + 1) * (t.root.height + 1) :=
          Nat.mul_le_mul_right _ (by simp [FileTree.maxLinks])
  omega

/-- In a tree without links the directories of a pattern are its candidates. -/
theorem mem_candidates_iff (hfree : t.root.isLinkFree = true) {recursive : Bool}
    (hroot : t.isDir root = true) :
    dir ∈ candidates t excludes recursive root ↔ Candidate t excludes recursive root dir := by
  have hdir : ∃ entries, t.root.at? (root ++ []) = some (.dir entries) := by
    simpa using (FileTree.isDir_iff hfree).1 hroot
  have hopens (way : List Name) :
      Opens t excludes root root way ↔
        (∃ entries, t.root.at? (root ++ way) = some (.dir entries)) ∧
          ∀ (q : List Name) (name : Name), q ++ [name] <+: way →
            ¬ IgnoredName name ∧
              excludes.excludesPath (FileTree.displayRelative (q ++ [name])) = false := by
    simpa using opens_iff hfree hdir
  unfold candidates Candidate
  cases recursive with
  | false => simp
  | true =>
      simp only [if_true, true_and, List.mem_cons, mem_below_iff]
      constructor
      · intro h
        rcases h with rfl | ⟨way, -, -, rfl, hway⟩
        · exact Or.inl rfl
        · exact Or.inr ⟨way, rfl, (hopens way).1 hway⟩
      · intro h
        rcases h with rfl | ⟨way, rfl, hend, hway⟩
        · exact Or.inl rfl
        · by_cases hempty : way = []
          · exact Or.inl (by simp [hempty])
          · rcases hend with ⟨entries, hat⟩
            -- The walk is stopped at a depth, but nothing stands that deep.
            have hlength := length_le_depthBound hat
            simp only [List.length_append] at hlength
            exact Or.inr ⟨way, hempty, by omega, rfl, (hopens way).2 ⟨⟨entries, hat⟩, hway⟩⟩

/-- The root comes first, and the walk below it is sorted. -/
theorem candidates_increasing (recursive : Bool) :
    (candidates t excludes recursive root).Pairwise Location.Before := by
  unfold candidates
  rw [List.pairwise_cons]
  cases recursive with
  | false => simp
  | true =>
      refine ⟨?_, below_increasing _ root⟩
      intro x hx
      rcases mem_below_iff.1 hx with ⟨way, hway, -, rfl, -⟩
      exact Location.before_append root hway

theorem candidates_nodup (recursive : Bool) :
    (candidates t excludes recursive root).Nodup :=
  Location.nodup_of_increasing (candidates_increasing recursive)

end Load
end GoSurvey
