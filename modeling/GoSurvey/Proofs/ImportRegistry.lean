import Mathlib.Data.Finset.Card
import Mathlib.Data.Finset.Dedup
import GoSurvey.Proofs.ImportNames

/-!
# Runs of the import registry

A client of the registry sends requests in any order. This file follows whole runs of them.

* `ImportAliases.Request`, `ImportAliases.run` — the requests, and what a run of them answers and
  leaves behind;
* `ImportAliases.Sound` — the invariant: no path and no name is bound twice, every path is stripped
  and every name usable;
* `Sound.resolve`, `Sound.run` — one request keeps the invariant, and so does a run;
* `prefix_bindings_run` — a run only adds bindings, after those that are there;
* `run_registers_consistently` — what a client sees of all this.
-/

namespace GoSurvey
namespace ImportAliases

/-! ## Requests -/

/-- What a client may ask of the registry. -/
inductive Request where
  | resolve (path : String)
  | aliasFor (path : String)
  | pathFor (name : String)
  | size
  | isEmpty
  | importSpecs
deriving DecidableEq

inductive Answer where
  | name (name : String)
  | found (text? : Option String)
  | count (n : Nat)
  | truth (b : Bool)
  | lines (lines : List String)
deriving DecidableEq

def serve (t : ImportAliases) : Request → Answer × ImportAliases
  | .resolve path => (.name (t.resolve path).1, (t.resolve path).2)
  | .aliasFor path => (.found (t.aliasFor? path), t)
  | .pathFor name => (.found (t.pathFor? name), t)
  | .size => (.count t.size, t)
  | .isEmpty => (.truth t.isEmpty, t)
  | .importSpecs => (.lines t.importSpecs, t)

/-- The answers to requests in order, and the registry after the last. -/
def run (t : ImportAliases) : List Request → List Answer × ImportAliases
  | [] => ([], t)
  | r :: rest =>
      let (answer, next) := t.serve r
      let (answers, last) := run next rest
      (answer :: answers, last)

/-- The path that a request asks to have resolved, without its vendoring directory. -/
def Request.resolved? : Request → Option String
  | .resolve path => some (stripVendor path)
  | _ => none

/-! ## The invariant -/

/-- The state of a registry that only `resolve` has written to. -/
structure Sound (t : ImportAliases) : Prop where
  paths_nodup : (t.bindings.map (·.path)).Nodup
  names_nodup : (t.bindings.map (·.name)).Nodup
  stripped : ∀ b ∈ t.bindings, stripVendor b.path = b.path
  usable : ∀ b ∈ t.bindings, isUsable b.name.toList = true

/-- The empty registry is sound. -/
theorem sound_empty : Sound empty := by
  refine ⟨?_, ?_, ?_, ?_⟩ <;> simp [empty]

section Lookup

variable {t : ImportAliases} {p a : String}

/-- Where no key stands twice, the first element with a key is the only one. -/
theorem find?_key_eq_some_iff {key : ImportBinding → String} {l : List ImportBinding}
    (hnodup : (l.map key).Nodup) {b : ImportBinding} :
    l.find? (key · == key b) = some b ↔ b ∈ l := by
  constructor
  · exact List.mem_of_find?_eq_some
  · intro hmem
    -- Something is found, as the binding itself would do; and no other has its key.
    cases hfind : l.find? (key · == key b) with
    | none =>
        have hnone := List.find?_eq_none.1 hfind b hmem
        simp at hnone
    | some c =>
        have hkey : key c = key b := by simpa using List.find?_some hfind
        rw [List.inj_on_of_nodup_map hnodup (List.mem_of_find?_eq_some hfind) hmem hkey]

/-- A path has no name exactly if it is not bound. -/
theorem nameOf?_eq_none_iff : t.nameOf? p = none ↔ p ∉ t.bindings.map (·.path) := by
  simp [nameOf?]

namespace Sound

/-- Where no path is bound twice, the name that is found is the one bound. -/
theorem nameOf?_eq_some_iff (h : Sound t) : t.nameOf? p = some a ↔ ⟨p, a⟩ ∈ t.bindings := by
  rw [← find?_key_eq_some_iff h.paths_nodup, nameOf?, Option.map_eq_some_iff]
  constructor
  · intro hfound
    rcases hfound with ⟨⟨q, b⟩, hfind, rfl⟩
    have hpath : q = p := by simpa using List.find?_some hfind
    simpa [hpath] using hfind
  · intro hfind
    exact ⟨_, hfind, rfl⟩

/-- Where no name is bound twice, the path that is found is the one bound. -/
theorem pathFor?_eq_some_iff (h : Sound t) : t.pathFor? a = some p ↔ ⟨p, a⟩ ∈ t.bindings := by
  rw [← find?_key_eq_some_iff h.names_nodup, pathFor?, Option.map_eq_some_iff]
  constructor
  · intro hfound
    rcases hfound with ⟨⟨q, b⟩, hfind, rfl⟩
    have hname : b = a := by simpa using List.find?_some hfind
    simpa [hname] using hfind
  · intro hfind
    exact ⟨_, hfind, rfl⟩

/-- The two look-ups of a sound registry agree. -/
theorem aliasFor?_iff_pathFor? (h : Sound t) :
    t.aliasFor? p = some a ↔ t.pathFor? a = some (stripVendor p) := by
  rw [aliasFor?, h.nameOf?_eq_some_iff, h.pathFor?_eq_some_iff]

/-- A path that bears a name is asked for by itself, as it is stripped already. -/
theorem aliasFor?_of_pathFor? (h : Sound t) (hpath : t.pathFor? a = some p) :
    t.aliasFor? p = some a := by
  -- The path is bound, so it is stripped already.
  have hstrip : stripVendor p = p := h.stripped _ (h.pathFor?_eq_some_iff.1 hpath)
  rw [h.aliasFor?_iff_pathFor?, hstrip]
  exact hpath

end Sound
end Lookup

/-! ## One request -/

/-- What `resolve` does: a bound path gives its name, and a new one is bound to a name that is
usable and that no other path bears. -/
theorem resolve_cases (t : ImportAliases) (path : String) :
    (∃ name, t.nameOf? (stripVendor path) = some name ∧ t.resolve path = (name, t)) ∨
      (∃ name, stripVendor path ∉ t.bindings.map (·.path) ∧ name ∉ t.bindings.map (·.name) ∧
        isUsable name.toList = true ∧
        t.resolve path = (name, ⟨t.bindings ++ [⟨stripVendor path, name⟩]⟩)) := by
  cases hname : t.nameOf? (stripVendor path) with
  | some name => exact Or.inl ⟨name, rfl, by simp only [resolve, hname]⟩
  | none =>
      have hfree := (isFree_iff t).1 (isFree_firstFree t (segments (stripVendor path)))
      refine Or.inr ⟨_, nameOf?_eq_none_iff.1 hname, hfree.2, ?_, by simp only [resolve, hname]⟩
      simpa using hfree.1

/-- Resolving takes no binding away. -/
theorem prefix_bindings_resolve (t : ImportAliases) (path : String) :
    t.bindings <+: (t.resolve path).2.bindings := by
  rcases resolve_cases t path with ⟨name, -, heq⟩ | ⟨name, -, -, -, heq⟩
  · rw [heq]
  · rw [heq]
    exact List.prefix_append _ _

/-- The name that is given is bound to the stripped path. -/
theorem mem_bindings_resolve {t : ImportAliases} (h : Sound t) (path : String) :
    ⟨stripVendor path, (t.resolve path).1⟩ ∈ (t.resolve path).2.bindings := by
  rcases resolve_cases t path with ⟨name, hname, heq⟩ | ⟨name, -, -, -, heq⟩
  · rw [heq]
    exact h.nameOf?_eq_some_iff.1 hname
  · rw [heq]
    simp

/-- Resolving binds this path and no other. -/
theorem mem_paths_resolve {t : ImportAliases} (h : Sound t) (path p : String) :
    p ∈ (t.resolve path).2.bindings.map (·.path) ↔
      p ∈ t.bindings.map (·.path) ∨ p = stripVendor path := by
  rcases resolve_cases t path with ⟨name, hname, heq⟩ | ⟨name, -, -, -, heq⟩
  · have hmem : stripVendor path ∈ t.bindings.map (·.path) :=
      List.mem_map_of_mem (f := (·.path)) (h.nameOf?_eq_some_iff.1 hname)
    rw [heq]
    constructor
    · exact Or.inl
    · intro hor
      rcases hor with hp | rfl
      · exact hp
      · exact hmem
  · rw [heq]
    simp

/-- Resolving keeps a registry sound. -/
theorem Sound.resolve {t : ImportAliases} (h : Sound t) (path : String) :
    Sound (t.resolve path).2 := by
  rcases resolve_cases t path with ⟨name, -, heq⟩ | ⟨name, hpath, hname, husable, heq⟩
  · rw [heq]
    exact h
  · -- A new binding at the end: its path and its name are new, the path stripped, the name usable.
    rw [heq]
    refine ⟨?_, ?_, ?_, ?_⟩
    · simpa using h.paths_nodup.concat hpath
    · simpa using h.names_nodup.concat hname
    · intro b hb
      rcases List.mem_append.1 hb with hold | hnew
      · exact h.stripped b hold
      · rw [List.mem_singleton.1 hnew]
        exact stripVendor_stripVendor path
    · intro b hb
      rcases List.mem_append.1 hb with hold | hnew
      · exact h.usable b hold
      · rw [List.mem_singleton.1 hnew]
        exact husable

/-! ## Runs -/

theorem run_cons (t : ImportAliases) (r : Request) (rest : List Request) :
    t.run (r :: rest) =
      ((t.serve r).1 :: ((t.serve r).2.run rest).1, ((t.serve r).2.run rest).2) := rfl

/-- A request resolves a path, or leaves the registry as it is. -/
theorem serve_cases (t : ImportAliases) (r : Request) :
    (∃ path, r = .resolve path ∧ (t.serve r).2 = (t.resolve path).2) ∨
      (r.resolved? = none ∧ (t.serve r).2 = t) := by
  cases r with
  | resolve path => exact Or.inl ⟨path, rfl, rfl⟩
  | _ => exact Or.inr ⟨rfl, rfl⟩

/-- Any request keeps a registry sound. -/
theorem Sound.serve {t : ImportAliases} (h : Sound t) (r : Request) : Sound (t.serve r).2 := by
  rcases serve_cases t r with ⟨path, -, heq⟩ | ⟨-, heq⟩
  · rw [heq]
    exact h.resolve path
  · rw [heq]
    exact h

/-- Every run keeps the invariant. -/
theorem Sound.run {t : ImportAliases} (h : Sound t) (requests : List Request) :
    Sound (t.run requests).2 := by
  induction requests generalizing t with
  | nil => exact h
  | cons r rest ih => exact ih (h.serve r)

/-- A run only adds bindings, after those that are there. -/
theorem prefix_bindings_run (t : ImportAliases) (requests : List Request) :
    t.bindings <+: (t.run requests).2.bindings := by
  induction requests generalizing t with
  | nil => exact List.prefix_rfl
  | cons r rest ih =>
      have hstep : t.bindings <+: (t.serve r).2.bindings := by
        rcases serve_cases t r with ⟨path, -, heq⟩ | ⟨-, heq⟩
        · rw [heq]
          exact prefix_bindings_resolve t path
        · rw [heq]
      exact hstep.trans (ih (t.serve r).2)

/-- The bound paths are those bound before and those that were resolved. -/
theorem mem_paths_run {t : ImportAliases} (h : Sound t) (requests : List Request) (p : String) :
    p ∈ (t.run requests).2.bindings.map (·.path) ↔
      p ∈ t.bindings.map (·.path) ∨ p ∈ requests.filterMap Request.resolved? := by
  induction requests generalizing t with
  | nil => simp [run]
  | cons r rest ih =>
      rw [run_cons]
      rcases serve_cases t r with ⟨path, rfl, heq⟩ | ⟨hnone, heq⟩
      -- The first request binds its path, the others do the rest.
      · have hsome : (Request.resolve path).resolved? = some (stripVendor path) := rfl
        rw [heq, ih (h.resolve path), mem_paths_resolve h, List.filterMap_cons_some hsome,
          List.mem_cons]
        tauto
      · rw [heq, ih h, List.filterMap_cons_none hnone]

/-- Each name that a run gives out is bound to its path in the end. -/
theorem mem_bindings_run {t : ImportAliases} (h : Sound t) {requests : List Request} {i : Nat}
    {path : String} (hi : requests[i]? = some (.resolve path)) :
    ∃ name, (t.run requests).1[i]? = some (.name name) ∧
      ⟨stripVendor path, name⟩ ∈ (t.run requests).2.bindings := by
  induction requests generalizing t i with
  | nil => simp at hi
  | cons r rest ih =>
      cases i with
      | zero =>
          have hsame : r = .resolve path := by simpa using hi
          subst hsame
          refine ⟨(t.resolve path).1, rfl, ?_⟩
          -- Bound by the first request, and nothing after it takes the binding away.
          exact (prefix_bindings_run _ rest).subset (mem_bindings_resolve h path)
      | succ i =>
          have hrest : rest[i]? = some (.resolve path) := by simpa using hi
          exact ih (h.serve r) hrest

/-! ## What a client sees -/

/-- A usable name is a letter followed by letters and digits, and is neither blank nor a keyword. -/
theorem isUsable_iff {name : String} :
    isUsable name.toList = true ↔
      (∃ c s, name.toList = c :: s ∧ isGoLetter c = true ∧
        ∀ d ∈ s, isGoLetter d = true ∨ isGoDigit d = true) ∧
      name ≠ "_" ∧ name ∉ keywords := by
  have hblank : name.toList = ['_'] ↔ name = "_" :=
    ⟨fun h => String.toList_injective h, fun h => h ▸ rfl⟩
  cases hlist : name.toList with
  | nil => simp [isUsable, isGoIdentifier]
  | cons c s =>
      rw [hlist] at hblank
      have hname : String.ofList (c :: s) = name := by simp [← hlist]
      simp only [isUsable, hname, Bool.and_eq_true, isGoIdentifier_cons, bne_iff_ne, ne_eq, hblank]
      constructor
      · intro husable
        rcases husable with ⟨⟨hid, hne⟩, hkey⟩
        exact ⟨⟨c, s, rfl, hid⟩, hne, by simpa using hkey⟩
      · intro hform
        rcases hform with ⟨⟨_, _, heq, hid⟩, hne, hkey⟩
        rcases List.cons.inj heq with ⟨rfl, rfl⟩
        exact ⟨⟨hid, hne⟩, by simpa using hkey⟩

/-- Whatever is asked of a new registry, and in whatever order: its two directions are inverse to
one another; two requests to resolve a path are answered by the same name exactly if the paths are
the same without their vendoring directories, and the name stays; every name that is bound is an
identifier other than the blank one and the keywords; and the size counts the different paths. -/
theorem run_registers_consistently (requests : List Request) :
    ∃ answers t, empty.run requests = (answers, t) ∧
      (∀ p a : String, t.aliasFor? p = some a ↔ t.pathFor? a = some (stripVendor p)) ∧
      (∀ p a : String, t.pathFor? a = some p → t.aliasFor? p = some a) ∧
      (∀ (i : Nat) (p : String), requests[i]? = some (.resolve p) →
        ∃ a, answers[i]? = some (.name a) ∧ t.aliasFor? p = some a) ∧
      (∀ (i j : Nat) (p q a b : String),
        requests[i]? = some (.resolve p) → requests[j]? = some (.resolve q) →
        answers[i]? = some (.name a) → answers[j]? = some (.name b) →
        (a = b ↔ stripVendor p = stripVendor q)) ∧
      (∀ p a : String, t.pathFor? a = some p →
        (∃ c s, a.toList = c :: s ∧ isGoLetter c = true ∧
          ∀ d ∈ s, isGoLetter d = true ∨ isGoDigit d = true) ∧
        a ≠ "_" ∧ a ∉ keywords) ∧
      t.size = (requests.filterMap Request.resolved?).toFinset.card := by
  have hsound : Sound (empty.run requests).2 := sound_empty.run requests
  refine ⟨(empty.run requests).1, (empty.run requests).2, rfl,
    fun p a => hsound.aliasFor?_iff_pathFor?, fun p a => hsound.aliasFor?_of_pathFor?,
    ?_, ?_, ?_, ?_⟩
  · intro i p hi
    rcases mem_bindings_run sound_empty hi with ⟨a, hanswer, hbound⟩
    exact ⟨a, hanswer, hsound.nameOf?_eq_some_iff.2 hbound⟩
  · intro i j p q a b hi hj ha hb
    rcases mem_bindings_run sound_empty hi with ⟨a', ha', hpa⟩
    rcases mem_bindings_run sound_empty hj with ⟨b', hb', hqb⟩
    have hsame : a' = a := by simpa [ha'] using ha
    subst hsame
    have hsame : b' = b := by simpa [hb'] using hb
    subst hsame
    -- Both bindings stand in the last registry, where neither names nor paths stand twice.
    constructor
    · intro heq
      subst heq
      have hsame := List.inj_on_of_nodup_map hsound.names_nodup hpa hqb rfl
      exact congrArg ImportBinding.path hsame
    · intro hpath
      have hsame := List.inj_on_of_nodup_map hsound.paths_nodup hpa hqb hpath
      exact congrArg ImportBinding.name hsame
  · intro p a hpath
    exact isUsable_iff.1 (hsound.usable _ (hsound.pathFor?_eq_some_iff.1 hpath))
  · -- Every bound path was resolved, and none is bound twice.
    have hpaths : (requests.filterMap Request.resolved?).toFinset =
        ((empty.run requests).2.bindings.map (·.path)).toFinset := by
      ext p
      rw [List.mem_toFinset, List.mem_toFinset, mem_paths_run sound_empty]
      simp [empty]
    rw [hpaths, List.toFinset_card_of_nodup hsound.paths_nodup, size, List.length_map]

end ImportAliases
end GoSurvey
