import GoSurvey.Proofs.Diagnostics
import GoSurvey.Proofs.LoadedPackages
import GoSurvey.Scan

/-!
# The methods of a package

A package is surveyed file by file, and a method goes to the structs of the file that it stands in.

* `Source.File.methodNames` — the methods that a file declares on a type;
* `Scan.structs_package` — files without structs are left out of the model, and no struct with them;
* `Scan.package_attaches_methods_of_own_file` — a struct of a package has the methods that its own
  file declares on it, and no others.
-/

namespace GoSurvey

open Model Source

/-- The names of the methods that a file declares on a type, in source order. -/
def Source.File.methodNames (f : Source.File) (owner : String) : List String :=
  (Sibling.values f.items).filterMap fun
    | .method receiver name _ => if Extract.ReceiverNames receiver owner then some name else none
    | _ => none

namespace Extract

/-- The method a declaration adds has the name it is declared with. -/
theorem map_name_methodOf? (ctx : Context) (owner : String) (d : Decl × List String) :
    (methodOf? ctx owner d).map (·.name) =
      match d.1 with
      | .method receiver name _ => if ReceiverNames receiver owner then some name else none
      | _ => none := by
  rcases d with ⟨decl, docs⟩
  cases decl with
  | method receiver name sig => by_cases h : ReceiverNames receiver owner <;> simp [methodOf?, h]
  | _ => rfl

/-- The names of a struct's methods are read off the declarations of its file. -/
theorem names_methods_of_mem_model {ctx : Context} {file : Source.File} {s : Struct}
    (h : s ∈ (model ctx file).structs) : s.methods.map (·.name) = file.methodNames s.name := by
  rw [methods_of_mem_model h, List.map_filterMap, Source.File.methodNames,
    ← Sibling.map_fst_documentedFrom [] file.items, List.filterMap_map]
  refine List.filterMap_congr ?_
  intro d _
  exact map_name_methodOf? ctx s.name d

theorem owner_of_mem_methods {ctx : Context} {file : Source.File} {s : Struct} {m : Method}
    (h : s ∈ (model ctx file).structs) (hm : m ∈ s.methods) : m.owner = s.name := by
  rw [methods_of_mem_model h] at hm
  rcases List.mem_filterMap.1 hm with ⟨d, -, hmethod⟩
  rcases methodOf?_eq_some hmethod with ⟨receiver, name, sig, -, rfl⟩
  rfl

end Extract

namespace Scan

/-- The structs of a package are those of all its files. -/
theorem structs_package (p : LoadedPackage) :
    (package p).structs = p.files.flatMap fun f => (file p f).structs := by
  unfold Package.structs package
  induction p.files with
  | nil => rfl
  | cons f rest ih =>
      cases hstructs : (file p f).structs with
      | nil => simpa [hstructs] using ih
      | cons s structs => simpa [hstructs] using ih

/-- The methods of a struct of a package are those that its own file declares on it, in source
order. Every method declaration whose receiver names a struct of its file is among them, and no
such struct is missing from the model of the package. -/
theorem package_attaches_methods_of_own_file (p : LoadedPackage) :
    (∀ s ∈ (package p).structs, ∃ f ∈ p.files,
      s ∈ (file p f).structs ∧ s.methods.map (·.name) = f.outline.methodNames s.name) ∧
    (∀ f ∈ p.files, ∀ receiver name sig owner,
      .method receiver name sig ∈ Sibling.values f.outline.items →
      Extract.ReceiverNames receiver owner →
      ∀ s ∈ (file p f).structs, s.name = owner →
        s ∈ (package p).structs ∧ ∃ m ∈ s.methods, m.name = name ∧ m.owner = owner) := by
  rw [structs_package]
  refine ⟨?_, ?_⟩
  · intro s hs
    rcases List.mem_flatMap.1 hs with ⟨f, hf, hstruct⟩
    exact ⟨f, hf, hstruct, Extract.names_methods_of_mem_model hstruct⟩
  · rintro f hf receiver name sig owner hdecl hnames s hs rfl
    refine ⟨List.mem_flatMap.2 ⟨f, hf, hs⟩, ?_⟩
    have hname : name ∈ f.outline.methodNames s.name :=
      List.mem_filterMap.2 ⟨_, hdecl, if_pos hnames⟩
    rw [← Extract.names_methods_of_mem_model hs] at hname
    rcases List.mem_map.1 hname with ⟨m, hm, rfl⟩
    exact ⟨m, hm, rfl, Extract.owner_of_mem_methods hs hm⟩

/-! ## A package in two files -/

def structSource : String :=
  "package p\n\n// A is documented.\ntype A struct\x7b\x7d\n\nfunc (A) N() \x7b\x7d\n"

def methodSource : String :=
  "package p\n\n// M is documented.\nfunc (*A) M() \x7b\x7d\n"

def splitTree : FileTree :=
  { root := .dir
      [(Text.utf8 "a.go", .file structSource.toUTF8), (Text.utf8 "b.go", .file methodSource.toUTF8)]
    home := [] }

def splitPackage : LoadedPackage :=
  { id := "", name := "p", importPath := "", dir := []
    files :=
      [⟨"a.go", structSource, Source.File.parse structSource⟩,
        ⟨"b.go", methodSource, Source.File.parse methodSource⟩] }

theorem roots_splitTree : Load.roots splitTree ["."] {} = .ok [splitPackage] := by
  decide +kernel

/-- The struct has the method of its own file and not the one of the other file. -/
theorem structs_splitPackage :
    (package splitPackage).structs.map (fun s => (s.name, s.methods.map (·.name))) =
      [("A", ["N"])] := by
  decide +kernel

/-- The struct `A` has the method `N` of its file. -/
theorem package_attaches_methods_of_own_file_splitPackage :
    ∃ s ∈ (package splitPackage).structs, s.name = "A" ∧ s.methods.map (·.name) = ["N"] ∧
      ∃ f ∈ splitPackage.files, s ∈ (file splitPackage f).structs ∧
        s.methods.map (·.name) = f.outline.methodNames "A" := by
  have hstruct : ("A", ["N"]) ∈
      (package splitPackage).structs.map (fun s => (s.name, s.methods.map (·.name))) := by
    simp [structs_splitPackage]
  rcases List.mem_map.1 hstruct with ⟨s, hs, hshown⟩
  obtain ⟨hname, hmethods⟩ := Prod.mk.inj hshown
  rcases (package_attaches_methods_of_own_file splitPackage).1 s hs with ⟨f, hf, hfile, howned⟩
  rw [hname] at howned
  exact ⟨s, hs, hname, hmethods, f, hf, hfile, howned⟩

def splitReceiver : List ParamItem :=
  [⟨⟨37, 3, 6⟩, [], false, ⟨⟨37, 3, 6⟩, "*A", .pointer false (.name "A")⟩⟩]

/-- The second file holds a documented method whose receiver names `A`. -/
theorem items_parse_methodSource :
    (Source.File.parse methodSource).items =
      [.item 0 0 (.package "p"), .comment ⟨"// M is documented.", 2, 2⟩,
        .item 3 3 (.method splitReceiver "M" ⟨[], .absent⟩)] := by
  decide +kernel

/-- A method in another file than its struct is not attached: the package has the struct without
it. -/
theorem package_leaves_method_of_other_file :
    ¬ ∀ (t : FileTree) (texts : List String) (config : Config) (found : List LoadedPackage),
        Load.roots t texts config = .ok found → ∀ p ∈ found, ∀ f ∈ p.files,
        ∀ receiver name sig owner,
          .method receiver name sig ∈ Sibling.values f.outline.items →
          Extract.ReceiverNames receiver owner →
          ∀ s ∈ (package p).structs, s.name = owner → ∃ m ∈ s.methods, m.name = name := by
  intro hclaim
  have hdecl : .method splitReceiver "M" ⟨[], .absent⟩ ∈
      Sibling.values (Source.File.parse methodSource).items := by
    simp [items_parse_methodSource, Sibling.values]
  have hstruct : ("A", ["N"]) ∈
      (package splitPackage).structs.map (fun s => (s.name, s.methods.map (·.name))) := by
    simp [structs_splitPackage]
  rcases List.mem_map.1 hstruct with ⟨s, hs, hshown⟩
  obtain ⟨hname, hmethods⟩ := Prod.mk.inj hshown
  rcases hclaim splitTree ["."] {} [splitPackage] roots_splitTree splitPackage (by simp)
    ⟨"b.go", methodSource, Source.File.parse methodSource⟩ (by simp [splitPackage])
    splitReceiver "M" ⟨[], .absent⟩ "A" hdecl (by decide) s hs hname with ⟨m, hm, hmname⟩
  have hlisted : "M" ∈ s.methods.map (·.name) := hmname ▸ List.mem_map_of_mem hm
  simp [hmethods] at hlisted

end Scan
end GoSurvey
