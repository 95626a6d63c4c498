import GoSurvey.Proofs.ImportRegistry
import GoSurvey.Proofs.QuotedText

/-!
# Import lines

The import lines of a registry list its bindings by path. A line shows the name unless the path
itself says it, and the path in quotes.

* `ImportAliases.PathBefore` — the order of paths;
* `ImportAliases.SaysName` — when a path itself says the name, so that the line leaves it out;
* `ImportAliases.importSpec_inj` — a line can be read back to its binding;
* `ImportAliases.importSpecs_eq_iff_same_bindings` — the lines show the bindings and nothing else, in
  particular not the order in which they were made.
-/

namespace GoSurvey
namespace ImportAliases

open Text

/-! ## The order of paths -/

/-- The order of paths: the first character that differs decides, and a path comes before those that
it starts. -/
def PathBefore (p q : String) : Prop :=
  List.Lex (fun c d : Char => c.val < d.val) p.toList q.toList

section Order

variable {p q r : String}

theorem PathBefore.trans (hpq : PathBefore p q) (hqr : PathBefore q r) : PathBefore p r :=
  List.lex_trans UInt32.lt_trans hpq hqr

theorem PathBefore.asymm (h : PathBefore p q) : ¬ PathBefore q p :=
  List.lex_asymm UInt32.lt_asymm h

theorem eq_of_not_pathBefore (h : ¬ PathBefore p q) (h' : ¬ PathBefore q p) : p = q := by
  have hchars : ∀ c d : Char, ¬ c.val < d.val → ¬ d.val < c.val → c = d := by
    intro c d hcd hdc
    exact Char.ext (UInt32.le_antisymm (UInt32.not_lt.1 hdc) (UInt32.not_lt.1 hcd))
  exact String.toList_injective (List.lex_trichotomous hchars h' h)

/-- The test that sorting uses is the order of paths. -/
theorem pathLe_iff {a b : ImportBinding} : pathLe a b = true ↔ ¬ PathBefore b.path a.path := by
  simp [pathLe, PathBefore, List.lex_eq_false_iff_not_lex]

theorem pathLe_trans (a b c : ImportBinding) (hab : pathLe a b = true) (hbc : pathLe b c = true) :
    pathLe a c = true := by
  rw [pathLe_iff] at hab hbc ⊢
  intro hca
  by_cases hlt : PathBefore a.path b.path
  · exact hbc (hca.trans hlt)
  · rw [eq_of_not_pathBefore hlt hab] at hca
    exact hbc hca

theorem pathLe_total (a b : ImportBinding) : (pathLe a b || pathLe b a) = true := by
  by_cases hlt : PathBefore b.path a.path
  · simp [pathLe_iff.2 hlt.asymm]
  · simp [pathLe_iff.2 hlt]

end Order

/-- The bindings are listed by strictly increasing paths. -/
theorem Sound.sorted_increasing {t : ImportAliases} (h : Sound t) :
    (t.bindings.mergeSort pathLe).Pairwise fun a b => PathBefore a.path b.path := by
  have hsorted := List.pairwise_mergeSort pathLe_trans pathLe_total t.bindings
  have hperm := (List.mergeSort_perm t.bindings pathLe).map (·.path)
  have hdistinct : (t.bindings.mergeSort pathLe).Pairwise fun a b => a.path ≠ b.path :=
    List.pairwise_map.1 (hperm.nodup_iff.2 h.paths_nodup)
  refine (hsorted.and hdistinct).imp ?_
  rintro a b ⟨hle, hne⟩
  by_contra hnot
  exact hne (eq_of_not_pathBefore hnot (pathLe_iff.1 hle))

/-! ## Lines -/

def bareSpec (b : ImportBinding) : String :=
  String.ofList (quote b.path.toList)

def namedSpec (b : ImportBinding) : String :=
  b.name ++ " " ++ bareSpec b

/-- The path itself says the name: it is what follows the last slash, and no major version. -/
def SaysName (b : ImportBinding) : Prop :=
  ('/' ∉ b.name.toList ∧
    (b.path = b.name ∨ ∃ before, b.path.toList = before ++ '/' :: b.name.toList)) ∧
  ¬ ∃ digits, digits ≠ [] ∧ (∀ d ∈ digits, '0' ≤ d ∧ d ≤ '9') ∧ b.name.toList = 'v' :: digits

section LastSegment

variable {c : Char} {s rest : List Char}

theorem afterLast?_eq_none_of_not_mem (h : c ∉ s) : afterLast? [c] s = none := by
  rw [afterLast?_eq_none_iff]
  intro hin
  exact h (hin.subset (by simp))

/-- What follows the last separator is what follows a separator and holds none. -/
theorem afterLast?_append (h : c ∉ rest) (before : List Char) :
    afterLast? [c] (before ++ c :: rest) = some rest := by
  induction before with
  | nil => simp [afterLast?, afterLast?_eq_none_of_not_mem h, dropPrefix?]
  | cons d before ih => simp [afterLast?, ih]

/-- The text after the last slash. -/
theorem lastSegment_eq_iff {path name : List Char} :
    lastSegment path = name ↔
      '/' ∉ name ∧ (path = name ∨ ∃ before, path = before ++ '/' :: name) := by
  constructor
  · rintro rfl
    by_cases hslash : '/' ∈ path
    · -- The last slash is the first one from the end.
      rcases List.eq_append_cons_of_mem (List.mem_reverse.2 hslash) with ⟨post, pre, hpath, hpost⟩
      have hsplit : path = pre.reverse ++ '/' :: post.reverse := by
        simpa using congrArg List.reverse hpath
      have hpost' : '/' ∉ post.reverse := by simpa using hpost
      have hsegment : lastSegment path = post.reverse := by
        rw [lastSegment, hsplit, afterLast?_append hpost', Option.getD_some]
      rw [hsegment]
      exact ⟨hpost', Or.inr ⟨pre.reverse, hsplit⟩⟩
    -- Without a slash the path is its own last segment.
    · have hsegment : lastSegment path = path := by
        rw [lastSegment, afterLast?_eq_none_of_not_mem hslash, Option.getD_none]
      rw [hsegment]
      exact ⟨hslash, Or.inl rfl⟩
  · rintro ⟨hname, rfl | ⟨before, rfl⟩⟩
    · rw [lastSegment, afterLast?_eq_none_of_not_mem hname, Option.getD_none]
    · rw [lastSegment, afterLast?_append hname, Option.getD_some]

end LastSegment

/-- A major version is a `v` and digits, at least one of them. -/
theorem isMajorVersion_iff {s : List Char} :
    isMajorVersion s = true ↔
      ∃ digits, digits ≠ [] ∧ (∀ d ∈ digits, '0' ≤ d ∧ d ≤ '9') ∧ s = 'v' :: digits := by
  unfold isMajorVersion
  split
  next digits => simp [isDigit]
  next hother =>
    constructor
    · simp
    · rintro ⟨digits, -, -, rfl⟩
      exact absurd rfl (hother digits)

/-- A path says its name if this is its last segment and no major version. -/
theorem saysName_iff {b : ImportBinding} :
    SaysName b ↔ lastSegment b.path.toList = b.name.toList ∧
      isMajorVersion b.name.toList = false := by
  rw [SaysName, ← String.toList_inj, lastSegment_eq_iff, ← isMajorVersion_iff, Bool.not_eq_true]

/-- A line leaves the name out exactly if the path itself says it. -/
theorem importSpec_cases (b : ImportBinding) :
    (SaysName b ∧ importSpec b = bareSpec b) ∨ (¬ SaysName b ∧ importSpec b = namedSpec b) := by
  by_cases hown : SaysName b
  · rcases saysName_iff.1 hown with ⟨hlast, hversion⟩
    exact Or.inl ⟨hown, by simp [importSpec, hlast, hversion, bareSpec]⟩
  · have hshown : ¬ (lastSegment b.path.toList = b.name.toList ∧
        !isMajorVersion (lastSegment b.path.toList)) := by
      rintro ⟨hlast, hversion⟩
      rw [hlast] at hversion
      exact hown (saysName_iff.2 ⟨hlast, by simpa using hversion⟩)
    exact Or.inr ⟨hown, by rw [importSpec, if_neg hshown]; rfl⟩

/-! ## Reading lines back -/

attribute [ext] ImportBinding

/-- Neither quotes nor spaces can stand in a name. -/
theorem quote_and_space_not_in_names :
    (isGoLetter '"' = false ∧ isGoDigit '"' = false) ∧
      isGoLetter ' ' = false ∧ isGoDigit ' ' = false := by
  decide

/-- A name that is given away holds nothing but letters and digits. -/
theorem not_mem_of_isUsable {name : List Char} (h : isUsable name = true) {c : Char}
    (hletter : isGoLetter c = false) (hdigit : isGoDigit c = false) : c ∉ name := by
  cases name with
  | nil => simp
  | cons first rest =>
      have hid : isGoIdentifier (first :: rest) = true := by
        simp only [isUsable, Bool.and_eq_true] at h
        exact h.1.1
      rcases isGoIdentifier_cons.1 hid with ⟨hfirst, hrest⟩
      intro hc
      rcases List.mem_cons.1 hc with rfl | hc
      · simp [hletter] at hfirst
      · simpa [hletter, hdigit] using hrest c hc

theorem space_not_mem {b : ImportBinding} (h : isUsable b.name.toList = true) :
    ' ' ∉ b.name.toList :=
  not_mem_of_isUsable h quote_and_space_not_in_names.2.1 quote_and_space_not_in_names.2.2

/-- The first character of a line tells whether it shows a name. -/
theorem bareSpec_ne_namedSpec (a : ImportBinding) {b : ImportBinding}
    (hb : isUsable b.name.toList = true) : bareSpec a ≠ namedSpec b := by
  intro h
  have hchars : quote a.path.toList = b.name.toList ++ ' ' :: quote b.path.toList := by
    simpa [bareSpec, namedSpec, ← String.toList_inj] using h
  have hquote : '"' ∉ b.name.toList :=
    not_mem_of_isUsable hb quote_and_space_not_in_names.1.1 quote_and_space_not_in_names.1.2
  -- The one line starts with a quote, the other with the first letter of a name.
  cases hname : b.name.toList with
  | nil => simp [hname, isUsable, isGoIdentifier] at hb
  | cons first rest =>
      have hfirst : '"' = first := by
        rw [hname] at hchars
        exact (List.cons.inj hchars).1
      exact hquote (by simp [hname, ← hfirst])

/-- A quoted path can be read back. -/
theorem path_eq_of_bareSpec_eq {a b : ImportBinding} (h : bareSpec a = bareSpec b) :
    a.path = b.path :=
  String.toList_injective (quote_injective (String.ofList_injective h))

/-- A line shows which path is bound, and to which name. -/
theorem importSpec_inj {a b : ImportBinding} (ha : isUsable a.name.toList = true)
    (hb : isUsable b.name.toList = true) (h : importSpec a = importSpec b) : a = b := by
  rcases importSpec_cases a with ⟨hown, hline⟩ | ⟨-, hline⟩
  · rcases importSpec_cases b with ⟨hown', hline'⟩ | ⟨-, hline'⟩
    · -- No name is shown: each is what its path says, and the paths are the same.
      have hpath : a.path = b.path := path_eq_of_bareSpec_eq (hline.symm.trans (h.trans hline'))
      have hname : a.name.toList = b.name.toList := by
        rw [← (saysName_iff.1 hown).1, hpath, (saysName_iff.1 hown').1]
      exact ImportBinding.ext hpath (String.toList_injective hname)
    -- One line shows a name and the other does not.
    · exact absurd (hline.symm.trans (h.trans hline')) (bareSpec_ne_namedSpec a hb)
  · rcases importSpec_cases b with ⟨-, hline'⟩ | ⟨-, hline'⟩
    · exact absurd (hline'.symm.trans (h.symm.trans hline)) (bareSpec_ne_namedSpec b ha)
    · -- Both names are shown: a name holds no space, so that the first one ends it.
      have hchars : a.name.toList ++ ' ' :: (bareSpec a).toList =
          b.name.toList ++ ' ' :: (bareSpec b).toList := by
        simpa [namedSpec] using congrArg String.toList (hline.symm.trans (h.trans hline'))
      rcases append_cons_inj (space_not_mem ha) (space_not_mem hb) hchars with ⟨hname, hpath⟩
      exact ImportBinding.ext (path_eq_of_bareSpec_eq (String.toList_injective hpath))
        (String.toList_injective hname)

/-- Lists of lines are equal only if they are the lines of the same bindings. -/
theorem map_importSpec_inj {l l' : List ImportBinding}
    (hl : ∀ b ∈ l, isUsable b.name.toList = true) (hl' : ∀ b ∈ l', isUsable b.name.toList = true)
    (h : l.map importSpec = l'.map importSpec) : l = l' := by
  induction l generalizing l' with
  | nil => exact (List.map_eq_nil_iff.1 h.symm).symm
  | cons a l ih =>
      cases l' with
      | nil => simp at h
      | cons b l' =>
          rcases List.forall_mem_cons.1 hl with ⟨ha, hl⟩
          rcases List.forall_mem_cons.1 hl' with ⟨hb, hl'⟩
          rcases List.cons.inj h with ⟨hline, hlines⟩
          rw [importSpec_inj ha hb hline, ih hl hl' hlines]

/-! ## The lines of a registry -/

def Reachable (t : ImportAliases) : Prop :=
  ∃ requests, (empty.run requests).2 = t

theorem Reachable.sound {t : ImportAliases} (h : Reachable t) : Sound t := by
  rcases h with ⟨requests, rfl⟩
  exact sound_empty.run requests

/-- Listed by path, the bindings show nothing of the order in which they were made. -/
theorem Sound.sorted_eq_of_same_bindings {t t' : ImportAliases} (h : Sound t) (h' : Sound t')
    (hsame : ∀ b, b ∈ t.bindings ↔ b ∈ t'.bindings) :
    t.bindings.mergeSort pathLe = t'.bindings.mergeSort pathLe := by
  have hperm : t.bindings.Perm t'.bindings :=
    (List.perm_ext_iff_of_nodup h.paths_nodup.of_map h'.paths_nodup.of_map).2 hsame
  have hsorted : (t.bindings.mergeSort pathLe).Perm (t'.bindings.mergeSort pathLe) :=
    (List.mergeSort_perm _ _).trans (hperm.trans (List.mergeSort_perm _ _).symm)
  refine hsorted.eq_of_pairwise ?_ h.sorted_increasing h'.sorted_increasing
  intro a b _ _ hab hba
  exact absurd hba hab.asymm

/-- Two sound registries have the same lines exactly if they have the same bindings. -/
theorem Sound.importSpecs_eq_iff {t t' : ImportAliases} (h : Sound t) (h' : Sound t') :
    t.importSpecs = t'.importSpecs ↔ ∀ b, b ∈ t.bindings ↔ b ∈ t'.bindings := by
  constructor
  · intro hlines b
    have hsorted : t.bindings.mergeSort pathLe = t'.bindings.mergeSort pathLe :=
      map_importSpec_inj (fun b hb => h.usable b (List.mem_mergeSort.1 hb))
        (fun b hb => h'.usable b (List.mem_mergeSort.1 hb)) hlines
    -- Sorting keeps the bindings, so that the same lines come from the same bindings.
    have hmem : b ∈ t.bindings.mergeSort pathLe ↔ b ∈ t'.bindings.mergeSort pathLe := by
      rw [hsorted]
    rwa [List.mem_mergeSort, List.mem_mergeSort] at hmem
  · intro hsame
    rw [importSpecs, importSpecs, h.sorted_eq_of_same_bindings h' hsame]

/-- The import lines of two registries are the same exactly if the same paths are bound to the same
names, in whatever order that was done. There is one line for each binding, in strictly increasing
order of the paths, and a line shows the name unless the path itself says it. -/
theorem importSpecs_eq_iff_same_bindings {t t' : ImportAliases} (h : Reachable t)
    (h' : Reachable t') :
    (t.importSpecs = t'.importSpecs ↔ ∀ b, b ∈ t.bindings ↔ b ∈ t'.bindings) ∧
    t.importSpecs.length = t.size ∧
    ∃ listed : List ImportBinding, t.importSpecs = listed.map importSpec ∧
      (∀ b, b ∈ listed ↔ b ∈ t.bindings) ∧
      listed.Pairwise (fun a b => PathBefore a.path b.path) ∧
      ∀ b ∈ listed, (SaysName b ∧ importSpec b = bareSpec b) ∨
        (¬ SaysName b ∧ importSpec b = namedSpec b ∧ importSpec b ≠ bareSpec b) := by
  refine ⟨h.sound.importSpecs_eq_iff h'.sound, by simp [importSpecs, size],
    t.bindings.mergeSort pathLe, rfl, fun b => List.mem_mergeSort, h.sound.sorted_increasing, ?_⟩
  intro b hb
  rcases importSpec_cases b with hbare | ⟨hown, hnamed⟩
  · exact Or.inl hbare
  · have husable := h.sound.usable b (List.mem_mergeSort.1 hb)
    refine Or.inr ⟨hown, hnamed, ?_⟩
    rw [hnamed]
    exact (bareSpec_ne_namedSpec b husable).symm

/-- Two paths, bound in either order: the lines are the same. The name `_time` is no segment, and a
major version is no name, so that both are shown. -/
theorem importSpecs_eq_iff_same_bindings_swapped :
    Reachable ⟨[⟨"z/\"time", "_time"⟩, ⟨"a/v2", "v2"⟩]⟩ ∧
      Reachable ⟨[⟨"a/v2", "v2"⟩, ⟨"z/\"time", "_time"⟩]⟩ ∧
      importSpecs ⟨[⟨"z/\"time", "_time"⟩, ⟨"a/v2", "v2"⟩]⟩ =
        ["v2 \"a/v2\"", "_time \"z/\\\"time\""] := by
  have h : Reachable ⟨[⟨"z/\"time", "_time"⟩, ⟨"a/v2", "v2"⟩]⟩ :=
    ⟨[.resolve "z/\"time", .resolve "a/v2"], by decide +kernel⟩
  have h' : Reachable ⟨[⟨"a/v2", "v2"⟩, ⟨"z/\"time", "_time"⟩]⟩ :=
    ⟨[.resolve "x/vendor/a/v2", .resolve "z/\"time"], by decide +kernel⟩
  -- The bindings stand in order already, so that sorting leaves them.
  have hlines : importSpecs ⟨[⟨"a/v2", "v2"⟩, ⟨"z/\"time", "_time"⟩]⟩ =
      ["v2 \"a/v2\"", "_time \"z/\\\"time\""] := by
    rw [importSpecs, List.mergeSort_of_pairwise (by decide)]
    decide +kernel
  refine ⟨h, h', ((importSpecs_eq_iff_same_bindings h h').1.2 ?_).trans hlines⟩
  simp [or_comm]

end ImportAliases
end GoSurvey
