import GoSurvey.Proofs.ImportPathKeys

/-!
# The module of a directory

A directory belongs to the module whose file stands nearest to it on the way up to the root. In a
tree without links this file says what the search for it finds, and that a path from the module to
anything in it can be written down.

* `Load.NearestModule` — the nearest directory with a module file, itself or above;
* `Load.DeclaresModule`, `Load.HasFaultyModule` — what can be said of its module file;
* `Load.module?_cases` — the three ways in which the search for a module ends;
* `Load.exists_relative_eq_ok` — a path from a directory to what is in it can always be told.
-/

namespace GoSurvey

open Text

/-! ## Names that make up a path -/

/-- Names that are texts make up a path that is one. -/
theorem Text.exists_utf8_joinWith {names : List Name}
    (h : ∀ name ∈ names, (ofUtf8? name).isSome = true) :
    ∃ s, utf8 s = joinWith Path.slash names := by
  induction names with
  | nil => exact ⟨"", rfl⟩
  | cons name rest ih =>
      rcases List.forall_mem_cons.1 h with ⟨hname, hrest⟩
      rcases Option.isSome_iff_exists.1 hname with ⟨first, hfirst⟩
      rcases ih hrest with ⟨later, hlater⟩
      have hname : utf8 first = name := ofUtf8?_eq_some_iff.1 hfirst
      cases rest with
      | nil => exact ⟨first, hname⟩
      | cons next rest =>
          refine ⟨first ++ ("/" ++ later), ?_⟩
          calc utf8 (first ++ ("/" ++ later)) = utf8 first ++ (utf8 "/" ++ utf8 later) := by
                rw [utf8_append, utf8_append]
            _ = name ++ Path.slash :: joinWith Path.slash (next :: rest) := by
                rw [hname, hlater]
                rfl

/-- Where all names in a tree are texts, so are those on the way to anything in it. -/
theorem Node.isSome_ofUtf8?_of_mem_at? {n m : Node} {loc : Location}
    (htext : n.namesAreText = true) (hat : n.at? loc = some m) :
    ∀ name ∈ loc, (ofUtf8? name).isSome = true := by
  intro name hname
  rcases List.append_of_mem hname with ⟨above, rest, rfl⟩
  have hsplit : above ++ name :: rest = above ++ [name] ++ rest := by simp
  rw [hsplit, at?_append] at hat
  rcases Option.bind_eq_some_iff.1 hat with ⟨inner, hinner, -⟩
  exact isSome_ofUtf8?_of_at? htext hinner

namespace Load

variable {t : FileTree} {dir m : Location}

/-! ## Directories above a directory -/

/-- Going up from a directory, a search stops at the nearest one that passes the test. -/
theorem find?_ancestors_eq_some_iff {test : Location → Bool} :
    (ancestors dir).find? test = some m ↔
      m <+: dir ∧ test m = true ∧ ∀ m', m' <+: dir → test m' = true → m' <+: m := by
  -- The ancestors grow at the front when the location grows at its end.
  induction dir using List.reverseRecOn with
  | nil =>
      have hroot : ancestors [] = [[]] := rfl
      rw [hroot, List.find?_singleton]
      by_cases htest : test [] = true
      · simp only [htest, if_true, Option.some.injEq, List.prefix_nil]
        constructor
        · rintro rfl
          exact ⟨rfl, htest, fun m' hm' _ => hm' ▸ List.nil_prefix⟩
        · rintro ⟨rfl, -⟩
          rfl
      · simp only [htest, if_false, reduceCtorEq, List.prefix_nil, false_iff, not_and]
        rintro rfl hm
        exact absurd hm htest
  | append_singleton above name ih =>
      rw [ancestors_concat]
      by_cases htest : test (above ++ [name]) = true
      · -- The directory itself passes the test, and contains no other one on the way.
        rw [List.find?_cons_of_pos htest, Option.some.injEq]
        constructor
        · rintro rfl
          exact ⟨List.prefix_refl _, htest, fun m' hm' _ => hm'⟩
        · rintro ⟨hm, -, hnearest⟩
          exact (hnearest _ (List.prefix_refl _) htest).eq_of_length_le hm.length_le
      · rw [List.find?_cons_of_neg htest, ih]
        have hbelow : ∀ m', test m' = true → (m' <+: above ++ [name] ↔ m' <+: above) := by
          intro m' hm'
          rw [List.prefix_concat_iff]
          exact ⟨fun h => h.resolve_left fun heq => htest (heq ▸ hm'), Or.inr⟩
        constructor
        · rintro ⟨hm, hpasses, hnearest⟩
          exact ⟨(hbelow m hpasses).2 hm, hpasses,
            fun m' hm' hpasses' => hnearest m' ((hbelow m' hpasses').1 hm') hpasses'⟩
        · rintro ⟨hm, hpasses, hnearest⟩
          exact ⟨(hbelow m hpasses).1 hm, hpasses,
            fun m' hm' hpasses' => hnearest m' ((hbelow m' hpasses').2 hm') hpasses'⟩

/-! ## Modules -/

def HasModuleFile (t : FileTree) (m : Location) : Prop :=
  ∃ content, t.root.at? (goModOf m) = some (.file content)

/-- Whether `m` is the nearest directory with a module file, the directory itself or one above it:
all others on the way up contain it. -/
def NearestModule (t : FileTree) (dir m : Location) : Prop :=
  m <+: dir ∧ HasModuleFile t m ∧ ∀ m', m' <+: dir → HasModuleFile t m' → m' <+: m

/-- Whether the module file of a directory is a text that declares this module path. -/
def DeclaresModule (t : FileTree) (m : Location) (path : String) : Prop :=
  ∃ content text, t.root.at? (goModOf m) = some (.file content) ∧
    String.fromUTF8? content = some text ∧ GoModule.path? text = some path

/-- Whether the nearest module file of a directory is no text, or a text that declares no module. -/
def HasFaultyModule (t : FileTree) (dir : Location) : Prop :=
  ∃ m content, NearestModule t dir m ∧ t.root.at? (goModOf m) = some (.file content) ∧
    (String.fromUTF8? content = none ∨
      ∃ text, String.fromUTF8? content = some text ∧ GoModule.path? text = none)

/-- The nearest module is contained in every other one, hence one only. -/
theorem NearestModule.unique {m' : Location} (h : NearestModule t dir m)
    (h' : NearestModule t dir m') : m = m' :=
  (h'.2.2 m h.1 h.2.1).eq_of_length_le (h.2.2 m' h'.1 h'.2.1).length_le

theorem DeclaresModule.unique {path path' : String} (h : DeclaresModule t m path)
    (h' : DeclaresModule t m path') : path = path' := by
  rcases h with ⟨content, text, hat, htext, hpath⟩
  rcases h' with ⟨content', text', hat', htext', hpath'⟩
  obtain rfl : content = content' := by simpa using hat.symm.trans hat'
  obtain rfl : text = text' := Option.some.inj (htext.symm.trans htext')
  exact Option.some.inj (hpath.symm.trans hpath')

/-- A faulty module file declares nothing. -/
theorem HasFaultyModule.not_declares (h : HasFaultyModule t dir) (hnearest : NearestModule t dir m)
    (path : String) : ¬ DeclaresModule t m path := by
  rcases h with ⟨m', content, hnearest', hat, hfault⟩
  obtain rfl := hnearest'.unique hnearest
  rintro ⟨content', text, hat', htext, hpath⟩
  obtain rfl : content = content' := by simpa using hat.symm.trans hat'
  rcases hfault with hnone | ⟨text', htext', hnone⟩
  · simp [hnone] at htext
  · obtain rfl : text' = text := Option.some.inj (htext'.symm.trans htext)
    simp [hnone] at hpath

section LinkFree

variable (hfree : t.root.isLinkFree = true)

include hfree

/-- On a link-free tree the walk upwards stops at the nearest module. -/
theorem find?_eq_some_iff_nearestModule :
    ((ancestors dir).find? fun a => t.isFile (goModOf a)) = some m ↔ NearestModule t dir m := by
  simp only [find?_ancestors_eq_some_iff, FileTree.isFile_iff hfree, NearestModule, HasModuleFile]

/-- The walk upwards ends at the root without a module file exactly when there is no nearest module.
-/
theorem find?_eq_none_iff_nearestModule :
    ((ancestors dir).find? fun a => t.isFile (goModOf a)) = none ↔
      ∀ m, ¬ NearestModule t dir m := by
  rw [Option.eq_none_iff_forall_ne_some]
  exact forall_congr' fun m => not_congr (find?_eq_some_iff_nearestModule hfree)

/-- The search for a module ends in three ways: there is no module file on the way up, or the nearest
one declares a module, or it is faulty. -/
theorem module?_cases (dir : Location) :
    ((∀ m, ¬ NearestModule t dir m) ∧ module? t dir = .ok none) ∨
      (∃ m path, NearestModule t dir m ∧ DeclaresModule t m path ∧
        module? t dir = .ok (some (m, path))) ∨
      (HasFaultyModule t dir ∧ ∃ m, module? t dir = .error (.notText (goModOf m)) ∨
        module? t dir = .error (.noModule (goModOf m))) := by
  unfold module?
  -- Each way out of the look-up is one of the three cases.
  cases hfind : (ancestors dir).find? fun a => t.isFile (goModOf a) with
  | none => exact Or.inl ⟨(find?_eq_none_iff_nearestModule hfree).1 hfind, rfl⟩
  | some m =>
      right
      have hnearest := (find?_eq_some_iff_nearestModule hfree).1 hfind
      rcases hnearest.2.1 with ⟨content, hat⟩
      have hread := FileTree.read?_of_at? hfree hat
      cases htext : String.fromUTF8? content with
      | none =>
          right
          refine ⟨⟨m, content, hnearest, hat, Or.inl htext⟩, m, Or.inl ?_⟩
          simp [hread, htext]
      | some text =>
          cases hpath : GoModule.path? text with
          | none =>
              right
              refine ⟨⟨m, content, hnearest, hat, Or.inr ⟨text, htext, hpath⟩⟩, m, Or.inr ?_⟩
              simp [hread, htext, hpath]
          | some path =>
              left
              refine ⟨m, path, hnearest, ⟨content, text, hat, htext, hpath⟩, ?_⟩
              simp [hread, htext, hpath]

/-- Import paths are counted from the nearest module, or from the scanned root where there is none. A
faulty module file is reported as no text or as without a module. -/
theorem importRoot_cases (root dir : Location) :
    ((∀ m, ¬ NearestModule t dir m) ∧ importRoot t root dir = .ok (root, lastName root)) ∨
      (∃ m path, NearestModule t dir m ∧ DeclaresModule t m path ∧
        importRoot t root dir = .ok (m, path)) ∨
      (HasFaultyModule t dir ∧ ∃ m, importRoot t root dir = .error (.notText (goModOf m)) ∨
        importRoot t root dir = .error (.noModule (goModOf m))) := by
  unfold importRoot
  rcases module?_cases hfree dir with ⟨hnone, hok⟩ | ⟨m, path, hnearest, hdeclares, hok⟩ | ⟨h, m, hm⟩
  · exact Or.inl ⟨hnone, by rw [hok]; rfl⟩
  · exact Or.inr (Or.inl ⟨m, path, hnearest, hdeclares, by rw [hok]; rfl⟩)
  · refine Or.inr (Or.inr ⟨h, m, hm.imp ?_ ?_⟩)
    · intro herror
      rw [herror]
      rfl
    · intro herror
      rw [herror]
      rfl

theorem contains_of_importRoot {root base : Location} {baseImport : String} (hroot : root <+: dir)
    (h : importRoot t root dir = .ok (base, baseImport)) : base <+: dir := by
  rcases importRoot_cases hfree root dir with ⟨-, hok⟩ | ⟨m, path, hnearest, -, hok⟩ | ⟨-, m, hm⟩
  · obtain ⟨rfl, rfl⟩ : root = base ∧ _ := by simpa using hok.symm.trans h
    exact hroot
  · obtain ⟨rfl, rfl⟩ : m = base ∧ path = baseImport := by simpa using hok.symm.trans h
    exact hnearest.1
  · rcases hm with hm | hm
    · simp [hm] at h
    · simp [hm] at h

/-- A faulty module file stops the walk; no directory above it is tried. -/
theorem not_hasFaultyModule_of_importRoot {root : Location} {base : Location × String}
    (h : importRoot t root dir = .ok base) : ¬ HasFaultyModule t dir := by
  intro hfault
  rcases importRoot_cases hfree root dir with
    ⟨hnone, -⟩ | ⟨m, path, hnearest, hdeclares, -⟩ | ⟨-, m, hm⟩
  · rcases hfault with ⟨m, -, hnearest, -⟩
    exact hnone m hnearest
  · exact hfault.not_declares hnearest path hdeclares
  · rcases hm with hm | hm
    · simp [hm] at h
    · simp [hm] at h

/-! ## Paths from a directory -/

/-- Without links, the path from a directory to anything in it can be told if names are texts. -/
theorem exists_relative_eq_ok (htext : t.root.namesAreText = true) {base loc : Location} {n : Node}
    (hbase : base <+: loc) (hat : t.root.at? loc = some n) :
    ∃ path, relative t loc base = .ok path := by
  rcases hbase with ⟨way, rfl⟩
  have hnames := Node.isSome_ofUtf8?_of_mem_at? htext hat
  rcases exists_utf8_joinWith fun name hname => hnames name (List.mem_append_right base hname) with
    ⟨path, hpath⟩
  refine ⟨path, (relative_eq_ok_iff hfree).2 ⟨List.prefix_append base way, ?_⟩⟩
  rw [hpath, List.drop_left]

end LinkFree

end Load
end GoSurvey
