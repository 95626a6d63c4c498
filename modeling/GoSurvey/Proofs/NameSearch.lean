import Mathlib.Data.List.Basic
import Mathlib.Logic.Function.Iterate
import GoSurvey.Proofs.ImportNames

/-!
# The search for a name

A new path gets its name by trial: turn by turn the next segment up is put before the name so far,
and once the path is used up an `x` is put after it, until the name is free. Nothing in the turns
themselves says that this ends.

* `Search`, `Search.next` — where a search stands, and one turn of it;
* `Search.Ends` — that a search ends after a number of turns, and with which name;
* `Search.name_iterate_next` — the names that are tried are the sequence `candidate`;
* `Search.ends_iff_of_first` — a search ends at its first free name, and only there;
* `isFree_candidate_eq_false_iff` — what a name of the sequence can be refused for;
* `resolve_gives_first_free` — a new path is given the first free name of its sequence.
-/

namespace GoSurvey
namespace ImportAliases

/-! ## Turns -/

/-- Where a search stands: the segments that are not in the name yet, the lowest first, and the
name so far. -/
structure Search where
  above : List (List Char)
  name : List Char

namespace Search

def start (segs : List (List Char)) : Search :=
  ⟨segs.reverse, []⟩

/-- One turn: the next segment up goes before the name, or else an `x` goes after it. -/
def next : Search → Search
  | ⟨segment :: above, name⟩ => ⟨above, sanitize segment ++ name⟩
  | ⟨[], name⟩ => ⟨[], name ++ ['x']⟩

/-- The search ends after a number of turns with a name: every turn but the last leads to a name
that is refused. -/
inductive Ends (t : ImportAliases) : Search → Nat → List Char → Prop where
  | stop {s : Search} (hfree : t.isFree s.next.name = true) : Ends t s 1 s.next.name
  | turn {s : Search} {n : Nat} {name : List Char} (hrefused : t.isFree s.next.name = false)
      (hlater : Ends t s.next n name) : Ends t s (n + 1) name

/-! ## The names that are tried -/

/-- After `n` turns the nearest `n` segments stand before the name, and one `x` behind it for each
turn past the last. -/
theorem iterate_next (above : List (List Char)) (name : List Char) (n : Nat) :
    next^[n] ⟨above, name⟩ =
      ⟨above.drop n, (above.take n).reverse.flatMap sanitize ++ name ++
        List.replicate (n - above.length) 'x'⟩ := by
  induction n generalizing above name with
  | zero => simp
  | succ n ih =>
      rw [Function.iterate_succ_apply]
      cases above with
      | nil => simp [next, ih, List.replicate_succ]
      | cons segment above => simp [next, ih]

/-- The names of the turns, the first one first, are those of the sequence. -/
theorem name_iterate_next (segs : List (List Char)) (i : Nat) :
    (next^[i + 1] (start segs)).name = candidate segs i := by
  simp [start, iterate_next, candidate, List.take_reverse]

/-! ## The last turn -/

section Ends

variable {t : ImportAliases} {s : Search} {n : Nat} {name : List Char}

theorem ends_iff_of_free (hfree : t.isFree s.next.name = true) :
    Ends t s n name ↔ n = 1 ∧ name = s.next.name := by
  constructor
  · intro h
    cases h with
    | stop _ => exact ⟨rfl, rfl⟩
    | turn hrefused _ => simp [hfree] at hrefused
  · rintro ⟨rfl, rfl⟩
    exact Ends.stop hfree

theorem ends_iff_of_refused (hrefused : t.isFree s.next.name = false) :
    Ends t s n name ↔ ∃ m, n = m + 1 ∧ Ends t s.next m name := by
  constructor
  · intro h
    cases h with
    | stop hfree => simp [hrefused] at hfree
    | turn _ hlater => exact ⟨_, rfl, hlater⟩
  · rintro ⟨m, rfl, hlater⟩
    exact Ends.turn hrefused hlater

/-- A search ends at the first turn that leads to a free name, and at no other. -/
theorem ends_iff_of_first {i : Nat} (hfree : t.isFree (next^[i + 1] s).name = true)
    (hrefused : ∀ j < i, t.isFree (next^[j + 1] s).name = false) :
    Ends t s n name ↔ n = i + 1 ∧ name = (next^[i + 1] s).name := by
  -- By induction on the turns before the last; the first of them leads to the rest.
  induction i generalizing s n with
  | zero => exact ends_iff_of_free hfree
  | succ i ih =>
      have hfirst : t.isFree s.next.name = false := hrefused 0 (Nat.succ_pos i)
      have hlater : ∀ j < i, t.isFree (next^[j + 1] s.next).name = false := fun j hj =>
        hrefused (j + 1) (Nat.succ_lt_succ hj)
      rw [ends_iff_of_refused hfirst]
      constructor
      · rintro ⟨m, rfl, hends⟩
        rcases (ih hfree hlater).1 hends with ⟨rfl, rfl⟩
        exact ⟨rfl, rfl⟩
      · rintro ⟨rfl, rfl⟩
        exact ⟨i + 1, rfl, (ih hfree hlater).2 ⟨rfl, rfl⟩⟩

end Ends
end Search

/-! ## Refused names -/

variable (t : ImportAliases)

/-- What can keep a name of the sequence from being given away: it is empty, the blank identifier or
a keyword, or a path bears it. -/
def Refused (name : List Char) : Prop :=
  name = [] ∨ name = ['_'] ∨ String.ofList name ∈ keywords ∨
    ∃ path, t.pathFor? (String.ofList name) = some path

/-- A name of the sequence that is not empty is an identifier, so nothing else can be wrong with
it. -/
theorem isFree_candidate_eq_false_iff (segs : List (List Char)) (i : Nat) :
    t.isFree (candidate segs i) = false ↔ t.Refused (candidate segs i) := by
  have hbound : (t.pathFor? (String.ofList (candidate segs i))).isNone = false ↔
      ∃ path, t.pathFor? (String.ofList (candidate segs i)) = some path := by
    simp [Option.isSome_iff_exists]
  -- A candidate is empty or an identifier, so only a keyword, a predeclared name or a bound one is
  -- refused besides the empty one.
  rcases candidate_eq_nil_or_isGoIdentifier segs i with hnil | hid
  · simp [hnil, isFree, isUsable, isGoIdentifier, Refused]
  · have hne : candidate segs i ≠ [] := by
      intro hnil
      simp [hnil, isGoIdentifier] at hid
    simp only [isFree, Bool.and_eq_false_iff, hbound, isUsable, hid, Refused, hne, false_or]
    simp [or_assoc]

/-! ## The search of the registry -/

/-- The name that is found is the first free one of the sequence. -/
theorem firstFree_eq_candidate (segs : List (List Char)) :
    ∃ i < t.searchBound segs, t.firstFree segs = candidate segs i ∧
      t.isFree (candidate segs i) = true ∧ ∀ j < i, t.isFree (candidate segs j) = false := by
  have hsome : ((List.range (t.searchBound segs)).find? fun i =>
      t.isFree (candidate segs i)).isSome = true := by
    rcases exists_isFree_candidate t segs with ⟨i, hi, hfree⟩
    exact List.find?_isSome.2 ⟨i, List.mem_range.2 hi, hfree⟩
  rcases Option.isSome_iff_exists.1 hsome with ⟨i, hfind⟩
  rcases List.find?_range_eq_some.1 hfind with ⟨hfree, hmem, hbefore⟩
  have hfirst : t.firstFree segs = (((List.range (t.searchBound segs)).find? fun i =>
      t.isFree (candidate segs i)).map (candidate segs)).getD [] := by
    rw [firstFree, List.find?_map]
    rfl
  refine ⟨i, List.mem_range.1 hmem, ?_, hfree, ?_⟩
  · rw [hfirst, hfind, Option.map_some, Option.getD_some]
  · intro j hj
    simpa using hbefore j hj

/-- A path that has no name yet is given the first name of its sequence that is usable and that no
path bears. The search by turns ends there and nowhere else, after at most one turn for each
segment, one for each binding and one more. Every name of the sequence is empty or an identifier, so
that those before it are empty, blank, keywords or taken. -/
theorem resolve_gives_first_free {path : String} (hnew : t.aliasFor? path = none)
    {segs : List (List Char)} (hsegs : segments (stripVendor path) = segs) :
    ∃ i ≤ segs.length + t.size,
      (∀ n name, Search.Ends t (.start segs) n name ↔ n = i + 1 ∧ name = candidate segs i) ∧
      t.resolve path =
        (String.ofList (candidate segs i),
          ⟨t.bindings ++ [⟨stripVendor path, String.ofList (candidate segs i)⟩]⟩) ∧
      (isUsable (candidate segs i) = true ∧
        t.pathFor? (String.ofList (candidate segs i)) = none) ∧
      (∀ j < i, ¬ (isUsable (candidate segs j) = true ∧
        t.pathFor? (String.ofList (candidate segs j)) = none)) ∧
      ∀ j,
        (candidate segs j ≠ [] →
          ∃ c s, candidate segs j = c :: s ∧ isGoLetter c = true ∧
            ∀ d ∈ s, isGoLetter d = true ∨ isGoDigit d = true) ∧
        (¬ (isUsable (candidate segs j) = true ∧
            t.pathFor? (String.ofList (candidate segs j)) = none) ↔
          t.Refused (candidate segs j)) := by
  have hfree_iff : ∀ name, t.isFree name = true ↔
      isUsable name = true ∧ t.pathFor? (String.ofList name) = none := by
    intro name
    simp [isFree]
  rcases firstFree_eq_candidate t segs with ⟨i, hi, hfound, hfree, hbefore⟩
  refine ⟨i, Nat.le_of_lt_succ hi, ?_, ?_, (hfree_iff _).1 hfree, ?_, ?_⟩
  · intro n name
    rw [← Search.name_iterate_next segs i]
    refine Search.ends_iff_of_first ?_ ?_
    · rwa [Search.name_iterate_next]
    · intro j hj
      rw [Search.name_iterate_next]
      exact hbefore j hj
  · have hname : t.nameOf? (stripVendor path) = none := hnew
    simp only [resolve, hname, hsegs, hfound]
  · intro j hj
    rw [← hfree_iff, hbefore j hj]
    exact Bool.false_ne_true
  · intro j
    refine ⟨?_, ?_⟩
    · intro hne
      have hid := (candidate_eq_nil_or_isGoIdentifier segs j).resolve_left hne
      rcases List.exists_cons_of_ne_nil hne with ⟨c, s, hform⟩
      rw [hform] at hid
      exact ⟨c, s, hform, isGoIdentifier_cons.1 hid⟩
    · rw [← hfree_iff, Bool.not_eq_true, isFree_candidate_eq_false_iff]

/-- The last segment leaves nothing, the last two make a keyword, and what the whole path makes is
taken, so that an `x` is needed: the fourth turn is the last. -/
theorem resolve_gives_first_free_taken :
    (⟨[⟨"ifgo", "ifgo"⟩]⟩ : ImportAliases).aliasFor? "if/go/2" = none ∧
      segments (stripVendor "if/go/2") = [['i', 'f'], ['g', 'o'], ['2']] ∧
      (⟨[⟨"ifgo", "ifgo"⟩]⟩ : ImportAliases).resolve "if/go/2" =
        ("ifgox", ⟨[⟨"ifgo", "ifgo"⟩, ⟨"if/go/2", "ifgox"⟩]⟩) ∧
      Search.Ends ⟨[⟨"ifgo", "ifgo"⟩]⟩ (.start [['i', 'f'], ['g', 'o'], ['2']]) 4
        ['i', 'f', 'g', 'o', 'x'] := by
  have hnew : (⟨[⟨"ifgo", "ifgo"⟩]⟩ : ImportAliases).aliasFor? "if/go/2" = none := by decide
  have hsegs : segments (stripVendor "if/go/2") = [['i', 'f'], ['g', 'o'], ['2']] := by decide
  have hname : (⟨[⟨"ifgo", "ifgo"⟩]⟩ : ImportAliases).resolve "if/go/2" =
      ("ifgox", ⟨[⟨"ifgo", "ifgo"⟩, ⟨"if/go/2", "ifgox"⟩]⟩) := by decide +kernel
  have hfourth : ∀ i < 5,
      String.ofList (candidate [['i', 'f'], ['g', 'o'], ['2']] i) = "ifgox" → i = 3 := by
    decide +kernel
  rcases resolve_gives_first_free _ hnew hsegs with ⟨i, hi, hends, hresolve, -, -, -⟩
  have hfound : String.ofList (candidate [['i', 'f'], ['g', 'o'], ['2']] i) = "ifgox" :=
    congrArg Prod.fst (hresolve.symm.trans hname)
  obtain rfl : i = 3 := hfourth i (Nat.lt_succ_of_le hi) hfound
  refine ⟨hnew, hsegs, hname, (hends 4 _).2 ⟨rfl, ?_⟩⟩
  simpa using (congrArg String.toList hfound).symm

end ImportAliases
end GoSurvey
