import GoSurvey.Extract

/-!
# The documented types of a file

The first pass over a file goes through its type declarations and the entries of each. This file
flattens the two loops into one.

* `Extract.entriesWithDocs` — the entries of all type declarations in source order, each with the
  doc block that counts for it;
* `Extract.value_types`, `Extract.diagnostics_types` — the pass as one walk over these entries;
* `Extract.typeEntry_cases` — what an entry that is reported looks like.
-/

namespace GoSurvey
namespace Extract

open Model

/-- The entries of all type declarations in source order. The doc block of a declaration counts for
all its entries; without one, each entry has its own. -/
def entriesWithDocs (decls : List (Source.Decl × List String)) :
    List (Source.TypeDecl × List String) :=
  decls.flatMap fun
    | (.types entries, docs) =>
        (Source.Sibling.documented entries).map fun (entry, own) =>
          (entry, if docs.isEmpty then own else docs)
    | _ => []

section Pass

variable (ctx : Context)

/-- The types of a file are what its entries give, one by one, each read with the doc block that
counts for it. -/
theorem value_types (decls : List (Source.Decl × List String)) :
    (types ctx decls).value =
      (entriesWithDocs decls).filterMap fun (entry, docs) => (typeEntry ctx docs entry).value := by
  induction decls with
  | nil => rfl
  | cons d rest ih =>
      rcases d with ⟨decl, docs⟩
      simp only [types, Noted.value_bind, Noted.value_each, Noted.value_pure, List.map_cons,
        List.flatten_cons, entriesWithDocs, List.flatMap_cons, List.filterMap_append] at ih ⊢
      rw [ih]
      cases decl with
      | types entries =>
          -- The entries are read one by one, each with the block that counts for it.
          simp only [typeEntries, Noted.value_bind, Noted.value_each, Noted.value_pure,
            List.filterMap_map]
          rfl
      | _ => rfl

/-- The first pass reports what its entries report, in the same order. -/
theorem diagnostics_types (decls : List (Source.Decl × List String)) :
    (types ctx decls).diagnostics =
      (entriesWithDocs decls).flatMap fun (entry, docs) =>
        (typeEntry ctx docs entry).diagnostics := by
  induction decls with
  | nil => rfl
  | cons d rest ih =>
      rcases d with ⟨decl, docs⟩
      simp only [types, Noted.diagnostics_bind, Noted.diagnostics_each, Noted.diagnostics_pure,
        List.append_nil, entriesWithDocs, List.flatMap_cons, List.flatMap_append] at ih ⊢
      rw [ih]
      cases decl with
      | types entries => simp [typeEntries, List.flatMap_map]
      | _ => rfl

/-- What is reported is a struct or an interface with a doc block. -/
theorem typeEntry_cases {docs : List String} {entry : Source.TypeDecl} {found : Found}
    (h : (typeEntry ctx docs entry).value = some found) :
    docs ≠ [] ∧
      ((∃ name start fields, entry = .spec name (.struct start fields) ∧
          found = .struct (struct ctx name start docs fields).value) ∨
        (∃ name start elements, entry = .spec name (.interface start elements) ∧
          found = .interface (interface ctx name start docs elements).value)) := by
  cases entry with
  | synonym name => simp [typeEntry] at h
  | spec name body =>
      -- Without a doc block nothing is found.
      cases docs with
      | nil => simp [typeEntry] at h
      | cons doc docs =>
          refine ⟨by simp, ?_⟩
          cases body with
          | struct start fields =>
              exact Or.inl ⟨name, start, fields, rfl, by simpa [typeEntry] using h.symm⟩
          | interface start elements =>
              exact Or.inr ⟨name, start, elements, rfl, by simpa [typeEntry] using h.symm⟩
          | other => simp [typeEntry] at h

/-- The first pass gives no struct a method. -/
theorem methods_of_mem_types {decls : List (Source.Decl × List String)} {s : Struct}
    (h : s ∈ structs (types ctx decls).value) : s.methods = [] := by
  rw [value_types] at h
  rcases List.mem_filterMap.1 h with ⟨found, hfound, hs⟩
  rcases List.mem_filterMap.1 hfound with ⟨⟨entry, docs⟩, -, hentry⟩
  rcases (typeEntry_cases ctx hentry).2 with ⟨_, _, _, -, rfl⟩ | ⟨_, _, _, -, rfl⟩
  · cases hs
    rfl
  · simp at hs

end Pass

end Extract
end GoSurvey
