import GoSurvey.FileTree
import Mathlib.Data.List.Sort

/-!
# Trees without links

In a tree without links a location leads to itself, so that questions about a location are
questions about the node that stands there.

* `Node.isLinkFree`, `Node.namesAreText` — there is no link, and every name encodes a text;
* `FileTree.node?_eq_at?` — what a location leads to is what stands there;
* `FileTree.mem_entryNames_iff`, `FileTree.entryNames_increasing` — the entries of a directory are
  listed completely and in strictly increasing order.
-/

namespace GoSurvey

open Text

/-- The order of names: the first byte that differs decides, and a name comes before those that it
starts. -/
def Name.Before (a b : Name) : Prop :=
  List.Lex (· < ·) a b

/-- The order of names is total. -/
theorem Name.before_of_not_before {a b : Name} (hnot : ¬ Name.Before b a) (hne : a ≠ b) :
    Name.Before a b := by
  cases Classical.em (Name.Before a b) with
  | inl h => exact h
  | inr h => exact absurd (List.le_antisymm hnot h) hne

/-- Putting a name into its place is what the library calls an ordered insertion. -/
theorem Name.insertSorted_eq (name : Name) (names : List Name) :
    insertSorted name names = names.orderedInsert (· ≤ ·) name := by
  induction names with
  | nil => rfl
  | cons next rest ih =>
      by_cases h : name ≤ next
      · simp [insertSorted, h]
      · simp [insertSorted, h, ih]

/-- Sorting names is the insertion sort of lists. -/
theorem Name.sorted_eq (names : List Name) : sorted names = names.insertionSort (· ≤ ·) := by
  induction names with
  | nil => rfl
  | cons name rest ih =>
      rw [List.insertionSort_cons, ← ih, ← insertSorted_eq]
      rfl

theorem Name.sorted_perm (names : List Name) : (sorted names).Perm names := by
  rw [sorted_eq]
  exact List.perm_insertionSort _ names

theorem Name.pairwise_sorted (names : List Name) : (sorted names).Pairwise (· ≤ ·) := by
  rw [sorted_eq]
  exact List.pairwise_insertionSort _ names

@[simp] theorem Name.mem_sorted {name : Name} {names : List Name} :
    name ∈ sorted names ↔ name ∈ names :=
  (sorted_perm names).mem_iff

namespace Node

/-! ## Tests of all nodes -/

def isLinkFree (n : Node) : Bool :=
  n.everywhere fun
    | link _ => false
    | _ => true

def namesAreText (n : Node) : Bool :=
  n.everywhere fun
    | dir entries => entries.all fun e => (ofUtf8? e.1).isSome
    | _ => true

/-! ## Locations -/

/-- A location is followed piece by piece. -/
theorem at?_append (n : Node) (loc loc' : Location) :
    n.at? (loc ++ loc') = (n.at? loc).bind (·.at? loc') := by
  induction loc generalizing n with
  | nil => simp [at?]
  | cons name rest ih =>
      cases hchild : n.child? name with
      | none => simp [at?, hchild]
      | some c => simp [at?, hchild, ih]

/-- Where something stands below a location, that is a directory. -/
theorem exists_dir_of_at?_append {n m : Node} {loc : Location} {name : Name} {rest : Location}
    (h : n.at? (loc ++ name :: rest) = some m) : ∃ entries, n.at? loc = some (dir entries) := by
  rw [at?_append] at h
  rcases Option.bind_eq_some_iff.1 h with ⟨c, hc, hrest⟩
  cases c with
  | dir entries => exact ⟨entries, hc⟩
  | file content => simp [at?, child?] at hrest
  | link target => simp [at?, child?] at hrest

/-- In a tree whose names are texts, the last name of a location where something stands is one. -/
theorem isSome_ofUtf8?_of_at? {n m : Node} {loc : Location} {name : Name}
    (htext : n.namesAreText = true) (hat : n.at? (loc ++ [name]) = some m) :
    (ofUtf8? name).isSome = true := by
  rcases exists_dir_of_at?_append hat with ⟨entries, hdir⟩
  -- The test of the tree holds of the directory, and so of each of its entries.
  have hnames := everywhere_self (everywhere_at? htext hdir)
  have hentry : (name, m) ∈ entries := by
    refine mem_of_lookup ?_
    simpa [at?_append, hdir, at?, child?] using hat
  simp only [List.all_eq_true] at hnames
  exact hnames (name, m) hentry

theorem height_le_of_mem {entries : List (Name × Node)} {e : Name × Node} (h : e ∈ entries) :
    e.2.height ≤ heightOfEntries entries := by
  induction entries with
  | nil => simp at h
  | cons e' rest ih =>
      simp only [heightOfEntries]
      rcases List.mem_cons.1 h with rfl | hrest
      · omega
      · have hle := ih hrest
        omega

/-- Going down by one name costs at least one of the height. -/
theorem length_add_height_le {n m : Node} {loc : Location} (h : n.at? loc = some m) :
    loc.length + m.height ≤ n.height := by
  induction loc generalizing n with
  | nil =>
      have hsame : n = m := by simpa [at?] using h
      subst hsame
      simp
  | cons name rest ih =>
      rcases Option.bind_eq_some_iff.1 h with ⟨c, hchild, hrest⟩
      cases n with
      | file content => simp [child?] at hchild
      | link target => simp [child?] at hchild
      | dir entries =>
          -- The entry is lower than its directory, and below it the induction goes on.
          have hlater := ih hrest
          have hstep : c.height ≤ heightOfEntries entries := height_le_of_mem (mem_of_lookup hchild)
          simp only [List.length_cons, height]
          omega

end Node

namespace FileTree

variable {t : FileTree}

/-! ## Following a location -/

/-- Without links, going down from a location arrives where something stands, and nowhere else. -/
theorem walk_enter {root n : Node} {loc : Location} (hfree : root.isLinkFree = true)
    (onLink : Location → List Step → Option Location) (hat : root.at? loc = some n)
    (names : List Name) :
    walk root onLink loc (names.map .enter) =
      (root.at? (loc ++ names)).map fun _ => loc ++ names := by
  induction names generalizing loc n with
  | nil => simp [walk, hat]
  | cons name rest ih =>
      have hbelow : root.at? (loc ++ name :: rest) = (n.child? name).bind (·.at? rest) := by
        simp [Node.at?_append, hat, Node.at?]
      cases n with
      | file content => simp [walk, hat, hbelow, Node.child?]
      | link target => simp [walk, hat, hbelow, Node.child?]
      | dir entries =>
          have hstep : root.at? (loc ++ [name]) = entries.lookup name := by
            simp [Node.at?_append, hat, Node.at?, Node.child?]
          cases hfound : entries.lookup name with
          | none => simp [walk, hat, hbelow, Node.child?, hfound]
          | some c =>
              have hnode : root.at? (loc ++ [name]) = some c := hstep.trans hfound
              -- The entry is no link, so the walk goes on in it.
              have hplain := Node.everywhere_self (Node.everywhere_at? hfree hnode)
              have hrest := ih hnode
              cases c with
              | link target => simp at hplain
              | file content => simpa [walk, hat, hfound] using hrest
              | dir inner => simpa [walk, hat, hfound] using hrest

/-- Without links, following a location finds it again or finds nothing. -/
theorem follow_enter {root : Node} (hfree : root.isLinkFree = true) (links : Nat)
    (loc : Location) :
    follow root links [] (loc.map .enter) = (root.at? loc).map fun _ => loc := by
  have hroot : root.at? [] = some root := rfl
  -- No link is met, so that their number does not matter.
  cases links with
  | zero => exact walk_enter hfree _ hroot loc
  | succ links => exact walk_enter hfree _ hroot loc

theorem resolve?_eq (hfree : t.root.isLinkFree = true) (loc : Location) :
    t.resolve? loc = (t.root.at? loc).map fun _ => loc :=
  follow_enter hfree maxLinks loc

theorem getD_resolve? (hfree : t.root.isLinkFree = true) (loc : Location) :
    (t.resolve? loc).getD loc = loc := by
  rw [resolve?_eq hfree]
  cases t.root.at? loc <;> rfl

/-- Without links, what a location leads to is what stands there. -/
theorem node?_eq_at? (hfree : t.root.isLinkFree = true) (loc : Location) :
    t.node? loc = t.root.at? loc := by
  rw [node?, resolve?_eq hfree]
  cases hat : t.root.at? loc with
  | none => rfl
  | some n => simpa using hat

theorem isDir_iff (hfree : t.root.isLinkFree = true) {loc : Location} :
    t.isDir loc = true ↔ ∃ entries, t.root.at? loc = some (.dir entries) := by
  rw [isDir, node?_eq_at? hfree]
  split <;> simp_all

theorem isFile_iff (hfree : t.root.isLinkFree = true) {loc : Location} :
    t.isFile loc = true ↔ ∃ content, t.root.at? loc = some (.file content) := by
  rw [isFile, node?_eq_at? hfree]
  split <;> simp_all

/-- Without links, a text is read from a location exactly if a file of its bytes stands there. -/
theorem read?_eq_some_iff (hfree : t.root.isLinkFree = true) {loc : Location} {text : String} :
    t.read? loc = some text ↔
      ∃ content, t.root.at? loc = some (.file content) ∧ String.fromUTF8? content = some text := by
  rw [read?, bytes?, node?_eq_at? hfree]
  split <;> simp_all

theorem read?_of_at? (hfree : t.root.isLinkFree = true) {loc : Location} {content : ByteArray}
    (hat : t.root.at? loc = some (.file content)) : t.read? loc = String.fromUTF8? content := by
  simp [read?, bytes?, node?_eq_at? hfree, hat]

/-! ## Listing a directory -/

/-- A name in a directory is one by which an entry is found. -/
theorem mem_names_iff {entries : List (Name × Node)} {name : Name} :
    name ∈ entries.map (·.1) ↔ ∃ n, entries.lookup name = some n := by
  rw [← Option.isSome_iff_exists, List.lookup_isSome_iff, List.mem_map]
  constructor
  · intro h
    rcases h with ⟨e, he, rfl⟩
    exact ⟨e, he, by simp⟩
  · intro h
    rcases h with ⟨e, he, hname⟩
    exact ⟨e, he, (eq_of_beq hname).symm⟩

/-- Without links, the names that are listed are those under which something stands. -/
theorem mem_entryNames_iff (hfree : t.root.isLinkFree = true) {loc : Location} {name : Name} :
    name ∈ t.entryNames loc ↔ ∃ n, t.root.at? (loc ++ [name]) = some n := by
  rw [entryNames, node?_eq_at? hfree, Node.at?_append]
  cases hat : t.root.at? loc with
  | none => simp
  | some n =>
      cases n with
      | dir entries => simpa [Node.at?, Node.child?] using mem_names_iff
      | file content => simp [Node.at?, Node.child?]
      | link target => simp [Node.at?, Node.child?]

/-- No two entries have one name, so the names are listed in strictly increasing order. -/
theorem entryNames_increasing (t : FileTree) (loc : Location) :
    (t.entryNames loc).Pairwise Name.Before := by
  unfold entryNames
  split
  next entries hnode =>
    rcases Option.bind_eq_some_iff.1 hnode with ⟨target, -, hat⟩
    have hnodup : (entries.map (·.1)).Nodup := by
      simpa using Node.everywhere_self (Node.everywhere_at? t.namesDiffer hat)
    have hdistinct : (Name.sorted (entries.map (·.1))).Nodup :=
      (Name.sorted_perm _).nodup_iff.2 hnodup
    -- Sorted and without repetition: each name is strictly before the next.
    refine ((Name.pairwise_sorted _).and hdistinct).imp ?_
    intro a b h
    rcases h with ⟨hle, hne⟩
    exact Name.before_of_not_before hle hne
  next => exact List.Pairwise.nil

end FileTree
end GoSurvey
