/-!
# Range tables

A set of characters given by closed ranges of code points in increasing order.

* `RangeTable.contains t c` — whether one of the ranges of `t` holds `c`;
* `RangeTable.isOrdered` — whether each range begins above the end of the one before it;
* `RangeTable.contains_iff` — for an ordered table, `contains` is membership in one of its ranges,
  so stopping at the first range above the character loses nothing.
-/

namespace GoSurvey
namespace Text

abbrev RangeTable := List (Nat × Nat)

namespace RangeTable

/-- Whether a range of the table holds the code point; the search stops at the first range that
begins above it. -/
def holds (n : Nat) : RangeTable → Bool
  | [] => false
  | (lo, hi) :: rest => if n < lo then false else if n ≤ hi then true else holds n rest

def contains (t : RangeTable) (c : Char) : Bool :=
  holds c.toNat t

/-- Whether the ranges are in increasing order, the first at `low` or above. -/
def isOrdered (low : Nat) : RangeTable → Bool
  | [] => true
  | (lo, hi) :: rest => decide (low ≤ lo) && decide (lo ≤ hi) && isOrdered (hi + 1) rest

theorem isOrdered_cons {low lo hi : Nat} {rest : RangeTable} :
    isOrdered low ((lo, hi) :: rest) = true ↔
      low ≤ lo ∧ lo ≤ hi ∧ isOrdered (hi + 1) rest = true := by
  simp [isOrdered, and_assoc]

/-- No range of an ordered table begins below its bound. -/
theorem le_of_isOrdered {low : Nat} {t : RangeTable} (ordered : isOrdered low t = true) :
    ∀ r ∈ t, low ≤ r.1 := by
  induction t generalizing low with
  | nil => intro r member; simp at member
  | cons r rest ih =>
      obtain ⟨lo, hi⟩ := r
      have parts := isOrdered_cons.1 ordered
      intro r member
      cases List.mem_cons.1 member with
      | inl same => subst same; exact parts.1
      | inr later =>
          have above := ih parts.2.2 r later
          omega

/-- In an ordered table nothing is missed by a search that stops early. -/
theorem holds_iff {n low : Nat} {t : RangeTable} (ordered : isOrdered low t = true) :
    holds n t = true ↔ ∃ r ∈ t, r.1 ≤ n ∧ n ≤ r.2 := by
  induction t generalizing low with
  | nil => simp [holds]
  | cons r rest ih =>
      obtain ⟨lo, hi⟩ := r
      have parts := isOrdered_cons.1 ordered
      have above := le_of_isOrdered parts.2.2
      by_cases below : n < lo
      -- The search stops here: all later ranges begin above `n` as well.
      · simp only [holds, below, if_true, Bool.false_eq_true, false_iff]
        rintro ⟨r, member, within⟩
        cases List.mem_cons.1 member with
        | inl same => subst same; simp only at within; omega
        | inr later =>
            have := above r later
            omega
      · by_cases inside : n ≤ hi
        · simp only [holds, below, inside, if_true, if_false, true_iff]
          exact ⟨(lo, hi), List.mem_cons_self, by simp only; omega⟩
        · simp only [holds, below, inside, if_false, ih parts.2.2]
          constructor
          · rintro ⟨r, member, within⟩
            exact ⟨r, List.mem_cons_of_mem _ member, within⟩
          · rintro ⟨r, member, within⟩
            cases List.mem_cons.1 member with
            | inl same => subst same; simp only at within; omega
            | inr later => exact ⟨r, later, within⟩

/-- A character lies in an ordered table exactly if it lies in one of its ranges. -/
theorem contains_iff {t : RangeTable} (ordered : isOrdered 0 t = true) (c : Char) :
    t.contains c = true ↔ ∃ r ∈ t, r.1 ≤ c.toNat ∧ c.toNat ≤ r.2 :=
  holds_iff ordered

end RangeTable
end Text
end GoSurvey
