import GoSurvey.Proofs.ImportPathKeys
import GoSurvey.Proofs.PatternLists

/-!
# Patterns with dots at their end

A pattern with a slash and dots at its end asks for a directory and all below it. The directory is
found again by taking away everything at the end of the pattern that looks like a separator, and that
may be more than was put there: a backslash is a character of a name, and slashes alone are the root.

* `FileTree.resolvePath?_of_slashes` — slashes at the end of a path lead nowhere else;
* `Pattern.bare`, `Pattern.ofText_recursive` — the directory that a pattern with dots names;
* `Pattern.EndsPlainly` — the texts that it is found again from;
* `Load.roots_starts_at_root` — the directory of a pattern is loaded first;
* `Load.roots_extended_by_dots` — so the load of a directory starts that of all below it, if its text
  ends plainly;
* `Load.roots_loses_backslash` — but not if its name ends with a backslash.
-/

namespace GoSurvey

open Text

/-! ## Slashes at the end of a path -/

namespace FileTree

variable {root : Node} {loc r : Location}

/-- Staying where a way has led to changes nothing. -/
theorem walk_of_here {onLink : Location → List Step → Option Location}
    (hlink : ∀ loc steps, onLink loc (steps ++ [.here]) = some r → onLink loc steps = some r)
    {steps : List Step} (h : walk root onLink loc (steps ++ [.here]) = some r) :
    walk root onLink loc steps = some r := by
  induction steps generalizing loc with
  | nil =>
      simp only [List.nil_append, walk] at h
      split at h
      · exact h
      · simp at h
  | cons step rest ih =>
      simp only [List.cons_append, walk] at h ⊢
      split at h
      next entries hat =>
        cases step with
        | here => exact ih h
        | up => exact ih h
        | enter name =>
            simp only at h ⊢
            cases hfound : entries.lookup name with
            | none => simp [hfound] at h
            | some n =>
                simp only [hfound] at h ⊢
                cases n with
                | file content => exact ih h
                | dir inner => exact ih h
                -- Behind a link the steps that are left are followed from its target.
                | link target =>
                    by_cases hempty : target.isEmpty = true
                    · simp [hempty] at h
                    · simp only [if_neg hempty] at h ⊢
                      rw [← List.append_assoc] at h
                      exact hlink _ _ h
      next => simp at h

theorem follow_of_here {links : Nat} {steps : List Step}
    (h : follow root links loc (steps ++ [.here]) = some r) :
    follow root links loc steps = some r := by
  induction links generalizing loc steps with
  | zero => exact walk_of_here (by simp) h
  | succ links ih => exact walk_of_here (fun _ _ => ih) h

/-- A path with a slash at its end leads where it leads without. -/
theorem resolvePath?_of_slash {t : FileTree} {path : List UInt8} (hpath : path ≠ [])
    (h : t.resolvePath? (path ++ [Path.slash]) = some r) : t.resolvePath? path = some r := by
  rcases List.exists_cons_of_ne_nil hpath with ⟨first, rest, rfl⟩
  have hsteps : Step.ofPath (first :: rest ++ [Path.slash]) =
      Step.ofPath (first :: rest) ++ [.here] := by
    simp only [Step.ofPath, splitOn_append, List.map_append]
    rfl
  simp only [resolvePath?, hsteps] at h ⊢
  exact follow_of_here h

theorem resolvePath?_of_slashes {t : FileTree} {path : List UInt8} (hpath : path ≠ []) {n : Nat}
    (h : t.resolvePath? (path ++ List.replicate n Path.slash) = some r) :
    t.resolvePath? path = some r := by
  induction n with
  | zero => simpa using h
  | succ n ih =>
      rw [List.replicate_succ', ← List.append_assoc] at h
      exact ih (resolvePath?_of_slash (by simp [hpath]) h)

end FileTree

/-! ## The directory of a pattern -/

namespace Pattern

/-- Whether a character is taken for a separator at the end of a pattern. -/
def isSeparator (c : Char) : Bool :=
  c == '/' || c == '\\'

def bare (text : String) : List Char :=
  dropEndWhile isSeparator text.toList

/-- Whether only slashes follow the last character of a text that is none, and this is no
backslash. -/
def EndsPlainly (text : String) : Prop :=
  ∃ start last n, text.toList = start ++ last :: List.replicate n '/' ∧ last ≠ '/' ∧ last ≠ '\\'

/-- A pattern that does not end in dots is its own path. -/
theorem ofText_plain {text : String} (h : ¬ "...".toList <:+ text.toList) :
    ofText text = ⟨utf8 text, false⟩ := by
  unfold ofText
  cases hdrop : dropSuffix? "...".toList text.toList with
  | none => rfl
  | some rest => exact absurd ⟨rest, (dropSuffix?_eq_some_iff.1 hdrop).symm⟩ h

/-- The directory of a pattern with dots is named by what stands before them and before all
separators, and is the current one if nothing does. -/
theorem ofText_recursive (text : String) :
    ofText (text ++ "/...") =
      ⟨if bare text = [] then Path.here else utf8 (String.ofList (bare text)), true⟩ := by
  have hdrop : dropSuffix? "...".toList (text ++ "/...").toList = some (text.toList ++ ['/']) :=
    dropSuffix?_eq_some_iff.2 (by simp)
  have hbare : dropEndWhile (fun c => c == '/' || c == '\\') (text.toList ++ ['/']) = bare text :=
    dropEndWhile_concat rfl text.toList
  unfold ofText
  simp only [hdrop, hbare, List.isEmpty_iff]

/-- Trimming such a text takes off its slashes only. -/
theorem bare_eq_of_endsPlainly {text : String} {start : List Char} {last : Char} {n : Nat}
    (htext : text.toList = start ++ last :: List.replicate n '/') (hslash : last ≠ '/')
    (hback : last ≠ '\\') : bare text = start ++ [last] := by
  have hlast : isSeparator last = false := by simp [isSeparator, hslash, hback]
  unfold bare
  rw [htext]
  clear htext
  induction n with
  | zero => simp [dropEndWhile, hlast]
  | succ n ih =>
      rw [List.replicate_succ', ← List.cons_append, ← List.append_assoc,
        dropEndWhile_concat rfl]
      exact ih

/-- Where a text ends plainly, its path is that of the pattern with dots, and slashes after it. -/
theorem EndsPlainly.utf8_eq {text : String} (h : EndsPlainly text) :
    bare text ≠ [] ∧
      ∃ n, utf8 text = utf8 (String.ofList (bare text)) ++ List.replicate n Path.slash := by
  rcases h with ⟨start, last, n, htext, hslash, hback⟩
  have hbare := bare_eq_of_endsPlainly htext hslash hback
  refine ⟨by simp [hbare], n, ?_⟩
  have hbyte : String.utf8EncodeChar '/' = [Path.slash] := by decide
  simp [utf8_eq_flatMap, hbare, htext, List.flatMap_replicate, hbyte]

end Pattern

/-! ## Loads -/

namespace Load

open Outcome

variable {t : FileTree}

/-- The directory that a pattern names is loaded first, and if the pattern has no dots it is all that
is loaded. -/
theorem roots_starts_at_root {text : String} {config : Config} {found : List LoadedPackage}
    (h : roots t [text] config = .ok found) :
    ∃ excludes root result later,
      ExcludeSet.parse config.exclude = .ok excludes ∧ rootOf t text = .ok root ∧
      package t excludes config.includeTests root root = .ok result ∧
      found = result.toList ++ later ∧ ((Pattern.ofText text).recursive = false → later = []) := by
  rcases roots_singleton_eq_ok_iff.1 h with ⟨excludes, root, visited, hparse, hroot, hpass⟩
  rcases (packages_cons_eq_ok_iff List.not_mem_nil).1 hpass with
    ⟨result, later, hresult, hlater, rfl⟩
  refine ⟨excludes, root, result, later, hparse, hroot, hresult, rfl, ?_⟩
  intro hrecursive
  simp only [hrecursive, Bool.false_eq_true, if_false, packages] at hlater
  cases hlater
  rfl

/-- Let a pattern without dots be loaded, and the same with a slash and dots after it. The directory of
the second is named by the text without all slashes and backslashes at its end. Where that is the
directory of the first, its packages come first among those of the second; and it is wherever the
text ends plainly. -/
theorem roots_extended_by_dots {text : String} (hdots : ¬ "...".toList <:+ text.toList)
    {config : Config} {found all : List LoadedPackage}
    (hload : roots t [text] config = .ok found)
    (hall : roots t [text ++ "/..."] config = .ok all) :
    ∃ root root', t.resolvePath? (utf8 text) = some root ∧
      t.resolvePath? (if Pattern.bare text = [] then Path.here
        else utf8 (String.ofList (Pattern.bare text))) = some root' ∧
      (root = root' → found <+: all) ∧ (Pattern.EndsPlainly text → root = root') := by
  have hplain := Pattern.ofText_plain hdots
  have hrecursive := Pattern.ofText_recursive text
  rcases roots_starts_at_root hload with
    ⟨excludes, root, result, later, hparse, hroot, hresult, rfl, hlater⟩
  rcases roots_starts_at_root hall with
    ⟨excludes', root', result', later', hparse', hroot', hresult', rfl, -⟩
  have hpath : t.resolvePath? (utf8 text) = some root := by
    simpa [hplain] using (rootOf_eq_ok_iff.1 hroot).1
  have hpath' := (rootOf_eq_ok_iff.1 hroot').1
  rw [hrecursive] at hpath'
  refine ⟨root, root', hpath, hpath', ?_, ?_⟩
  · rintro rfl
    obtain rfl : excludes = excludes' := Except.ok.inj (hparse.symm.trans hparse')
    obtain rfl : result = result' := Except.ok.inj (hresult.symm.trans hresult')
    rw [hlater (by rw [hplain]), List.append_nil]
    exact List.prefix_append _ _
  -- Only the slashes are trimmed, and they do not change where the path leads.
  · intro hend
    rcases hend.utf8_eq with ⟨hbare, n, hslashes⟩
    rw [hslashes] at hpath
    have hne : utf8 (String.ofList (Pattern.bare text)) ≠ [] := by
      intro hnil
      have hempty : String.ofList (Pattern.bare text) = "" := utf8_inj.1 hnil
      exact hbare (by simpa using congrArg String.toList hempty)
    have hsame := FileTree.resolvePath?_of_slashes hne hpath
    simp only [if_neg hbare] at hpath'
    exact Option.some.inj (hsame.symm.trans hpath')

/-- A tree with a package in `b` and two more below it, one of them two levels down. -/
def layeredTree : FileTree :=
  { root := .dir
      [(utf8 "a.go", .file .empty),
       (utf8 "b", .dir
        [(utf8 "d", .dir [(utf8 "e", .dir [(utf8 "z.go", .file .empty)])]),
         (utf8 "c", .dir [(utf8 "y.go", .file .empty)]),
         (utf8 "x.go", .file .empty)])]
    home := [] }

/-- The extended pattern finds `b` and, behind it, the packages inside. -/
theorem roots_extended_by_dots_layeredTree :
    ¬ "...".toList <:+ "b/".toList ∧ Pattern.EndsPlainly "b/" ∧
      ∃ found all, roots layeredTree ["b/"] {} = .ok found ∧
        roots layeredTree ["b/" ++ "/..."] {} = .ok all ∧
        found.map (·.dir) = [[utf8 "b"]] ∧
        all.map (·.dir) = [[utf8 "b"], [utf8 "b", utf8 "c"], [utf8 "b", utf8 "d", utf8 "e"]] ∧
        found <+: all := by
  have hdots : ¬ "...".toList <:+ "b/".toList := by decide
  have hend : Pattern.EndsPlainly "b/" := ⟨[], 'b', 1, rfl, by decide, by decide⟩
  have hload : (roots layeredTree ["b/"] {}).map (·.map (·.dir)) = .ok [[utf8 "b"]] := rfl
  have hall : (roots layeredTree ["b/" ++ "/..."] {}).map (·.map (·.dir)) =
      .ok [[utf8 "b"], [utf8 "b", utf8 "c"], [utf8 "b", utf8 "d", utf8 "e"]] := rfl
  rcases map_eq_ok_iff.1 hload with ⟨found, hfound, hdirs⟩
  rcases map_eq_ok_iff.1 hall with ⟨all, hfoundAll, hdirsAll⟩
  rcases roots_extended_by_dots hdots hfound hfoundAll with ⟨root, root', -, -, hstarts, hsame⟩
  exact ⟨hdots, hend, found, all, hfound, hfoundAll, hdirs.symm, hdirsAll.symm,
    hstarts (hsame hend)⟩

/-- A tree with a package in `b`, and one in a directory whose name has a backslash after that. -/
def backslashTree : FileTree :=
  { root := .dir
      [(utf8 "b", .dir [(utf8 "y.go", .file .empty)]),
       (utf8 "b\\", .dir [(utf8 "x.go", .file .empty)])]
    home := [] }

/-- The directory whose name ends with a backslash is loaded by itself, but not with dots: these load
another directory. -/
theorem roots_loses_backslash :
    ¬ ∀ (t : FileTree) (config : Config) (text : String) (found all : List LoadedPackage),
        ¬ "...".toList <:+ text.toList → roots t [text] config = .ok found →
        roots t [text ++ "/..."] config = .ok all → found <+: all := by
  intro hclaim
  have hload : (roots backslashTree ["b\\"] {}).map (·.map (·.dir)) = .ok [[utf8 "b\\"]] := rfl
  have hall : (roots backslashTree ["b\\" ++ "/..."] {}).map (·.map (·.dir)) = .ok [[utf8 "b"]] := rfl
  rcases map_eq_ok_iff.1 hload with ⟨found, hfound, hdirs⟩
  rcases map_eq_ok_iff.1 hall with ⟨all, hall, hdirs'⟩
  have hstarts := (hclaim backslashTree {} "b\\" found all (by decide) hfound hall).map (·.dir)
  rw [← hdirs, ← hdirs'] at hstarts
  revert hstarts
  decide

end Load
end GoSurvey
