import GoSurvey.Path

/-!
# Files, links and directories

* `Node` — a file, a link or a directory with what lies below it;
* `Node.at?` — what stands at a location, no link being followed;
* `Node.everywhere` — that a test holds of a node and of all below it;
* `Node.namesDiffer`, `Node.namesArePieces` — what every file system sees to: no directory has two
  entries of one name, and every name is a piece of a path;
* `Node.everywhere_insert` — building a tree keeps a test that adding an entry keeps, and so both of
  these.
-/

namespace GoSurvey

/-- A file with its bytes, a symbolic link with its target, or a directory with its entries. -/
inductive Node where
  | file (content : ByteArray)
  | link (target : List UInt8)
  | dir (entries : List (Name × Node))

abbrev Location := List Name

namespace Node

def child? (n : Node) (name : Name) : Option Node :=
  match n with
  | dir entries => entries.lookup name
  | _ => none

def at? (n : Node) : Location → Option Node
  | [] => some n
  | name :: rest => (n.child? name).bind (at? · rest)

def putEntry (entries : List (Name × Node)) (name : Name) (n : Node) : List (Name × Node) :=
  entries.filter (·.1 != name) ++ [(name, n)]

/-- The node with another put at a location; directories on the way are made where they are
missing. -/
def insert (n : Node) : Location → Node → Node
  | [], new => new
  | name :: rest, new =>
      let entries :=
        match n with
        | dir entries => entries
        | _ => []
      let below := ((entries.lookup name).getD (dir [])).insert rest new
      dir (putEntry entries name below)

mutual

def height : Node → Nat
  | file _ => 0
  | link _ => 0
  | dir entries => heightOfEntries entries + 1

def heightOfEntries : List (Name × Node) → Nat
  | [] => 0
  | (_, n) :: rest => max n.height (heightOfEntries rest)

end

/-! ## Tests of all nodes -/

mutual

def everywhere (test : Node → Bool) : Node → Bool
  | file content => test (file content)
  | link target => test (link target)
  | dir entries => test (dir entries) && everywhereIn test entries

/-- Whether a test holds of everything in and below the entries of a directory. -/
def everywhereIn (test : Node → Bool) : List (Name × Node) → Bool
  | [] => true
  | (_, n) :: rest => everywhere test n && everywhereIn test rest

end

def namesDiffer (n : Node) : Bool :=
  n.everywhere fun
    | dir entries => decide (entries.map (·.1)).Nodup
    | _ => true

def namesArePieces (n : Node) : Bool :=
  n.everywhere fun
    | dir entries => entries.all fun e => Path.isPiece e.1
    | _ => true

/-- An entry that is found by its name is one of the entries. -/
theorem mem_of_lookup {entries : List (Name × Node)} {name : Name} {m : Node}
    (h : entries.lookup name = some m) : (name, m) ∈ entries := by
  rcases List.lookup_eq_some_iff.1 h with ⟨before, after, hentries, -⟩
  simp [hentries]

section Everywhere

variable {test : Node → Bool} {n m : Node} {entries : List (Name × Node)}

/-- What holds everywhere in a tree holds at its root. -/
theorem everywhere_self (h : n.everywhere test = true) : test n = true := by
  cases n with
  | file content => simpa [everywhere] using h
  | link target => simpa [everywhere] using h
  | dir entries =>
      simp only [everywhere, Bool.and_eq_true] at h
      exact h.1

theorem everywhereIn_iff :
    everywhereIn test entries = true ↔ ∀ e ∈ entries, e.2.everywhere test = true := by
  induction entries with
  | nil => simp [everywhereIn]
  | cons e rest ih => simp only [everywhereIn, Bool.and_eq_true, List.forall_mem_cons, ih]

/-- A test holds everywhere in a directory if it holds of the directory and everywhere in its
entries. -/
theorem everywhere_dir_iff :
    (dir entries).everywhere test = true ↔
      test (dir entries) = true ∧ ∀ e ∈ entries, e.2.everywhere test = true := by
  simp only [everywhere, Bool.and_eq_true, everywhereIn_iff]

/-- What holds everywhere in a tree holds everywhere in each part of it. -/
theorem everywhere_at? {loc : Location} (h : n.everywhere test = true)
    (hat : n.at? loc = some m) : m.everywhere test = true := by
  induction loc generalizing n with
  | nil =>
      have hsame : n = m := by simpa [at?] using hat
      subst hsame
      exact h
  | cons name rest ih =>
      rcases Option.bind_eq_some_iff.1 hat with ⟨c, hchild, hrest⟩
      cases n with
      | file content => simp [child?] at hchild
      | link target => simp [child?] at hchild
      -- Only a directory has anything below it.
      | dir entries => exact ih ((everywhere_dir_iff.1 h).2 _ (mem_of_lookup hchild)) hrest

/-- A test that holds of the empty directory, and that a new entry does not spoil, holds everywhere
after a node is put into a tree if it did so before. -/
theorem everywhere_insert {new : Node} {loc : Location} (hempty : test (dir []) = true)
    (hput : ∀ name ∈ loc, ∀ entries below, test (dir entries) = true →
      test (dir (putEntry entries name below)) = true)
    (hn : n.everywhere test = true) (hnew : new.everywhere test = true) :
    (n.insert loc new).everywhere test = true := by
  have hnone : (dir []).everywhere test = true := everywhere_dir_iff.2 ⟨hempty, by simp⟩
  induction loc generalizing n with
  | nil => simpa [insert] using hnew
  | cons name rest ih =>
      rcases List.forall_mem_cons.1 hput with ⟨hname, hrest⟩
      -- One entry is replaced: the others are as before, and below it the induction goes on.
      have hreplace : ∀ {entries : List (Name × Node)} {below : Node},
          (dir entries).everywhere test = true → below.everywhere test = true →
            (dir (putEntry entries name below)).everywhere test = true := by
        intro entries below hentries hbelow
        rcases everywhere_dir_iff.1 hentries with ⟨htest, hothers⟩
        refine everywhere_dir_iff.2 ⟨hname _ _ htest, ?_⟩
        intro e he
        rcases List.mem_append.1 he with hold | hlast
        · exact hothers e (List.mem_filter.1 hold).1
        · have hsame : e = (name, below) := List.mem_singleton.1 hlast
          exact hsame ▸ hbelow
      cases n with
      -- What is no directory is replaced by one, and the others are as they were.
      | file content => exact hreplace hnone (ih hrest hnone)
      | link target => exact hreplace hnone (ih hrest hnone)
      | dir entries =>
          refine hreplace hn (ih hrest ?_)
          cases hchild : entries.lookup name with
          | none => exact hnone
          | some c => exact (everywhere_dir_iff.1 hn).2 _ (mem_of_lookup hchild)

end Everywhere

/-! ## Building a tree -/

variable {n new : Node}

/-- An entry takes the place of the one of its name, so no name comes twice. -/
theorem nodup_putEntry {entries : List (Name × Node)} (h : (entries.map (·.1)).Nodup)
    (name : Name) (below : Node) : ((putEntry entries name below).map (·.1)).Nodup := by
  rw [putEntry, List.map_append, List.nodup_append]
  refine ⟨h.sublist (List.filter_sublist.map _), by simp, ?_⟩
  intro a ha b hb heq
  rcases List.mem_map.1 ha with ⟨e, he, rfl⟩
  -- Entries of this name have been taken out before.
  have hother := (List.mem_filter.1 he).2
  have hsame : b = name := by simpa using hb
  simp [heq, hsame] at hother

/-- Putting a node into a tree keeps the names in each directory different. -/
theorem namesDiffer_insert (hn : n.namesDiffer = true) (hnew : new.namesDiffer = true)
    (loc : Location) : (n.insert loc new).namesDiffer = true := by
  refine everywhere_insert (by decide) ?_ hn hnew
  intro name _ entries below hentries
  simpa using nodup_putEntry (by simpa using hentries) name below

/-- Putting a node into a tree under names that are pieces of paths keeps all names such. -/
theorem namesArePieces_insert {loc : Location} (hn : n.namesArePieces = true)
    (hnew : new.namesArePieces = true) (hloc : ∀ name ∈ loc, Path.isPiece name = true) :
    (n.insert loc new).namesArePieces = true := by
  refine everywhere_insert (by decide) ?_ hn hnew
  intro name hname entries below hentries
  simp only [List.all_eq_true] at hentries ⊢
  intro e he
  rcases List.mem_append.1 he with hold | hlast
  · exact hentries e (List.mem_filter.1 hold).1
  · have hsame : e = (name, below) := List.mem_singleton.1 hlast
    exact hsame ▸ hloc name hname

end Node
end GoSurvey
