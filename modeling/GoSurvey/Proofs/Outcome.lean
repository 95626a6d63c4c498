import Mathlib.Data.List.Forall2

/-!
# Steps that may fail

When a computation made of steps succeeds, and with what, in terms of its steps.

* `Outcome.bind_eq_ok_iff`, `Outcome.map_eq_ok_iff` — one step after another;
* `Outcome.mapM_eq_ok_iff` — one step for each element of a list;
* `Outcome.mem_results_iff`, `Outcome.results_sublist` — the results of such steps;
* `Outcome.bind_eq_error_iff`, `Outcome.exists_of_mapM_eq_error` — a failure is that of a step.
-/

namespace GoSurvey
namespace Outcome

variable {ε α β : Type}

/-- A sequence succeeds when both of its steps do. -/
theorem bind_eq_ok_iff {x : Except ε α} {f : α → Except ε β} {b : β} :
    (x >>= f) = .ok b ↔ ∃ a, x = .ok a ∧ f a = .ok b := by
  cases x with
  | error e => simp [bind, Except.bind]
  | ok a => simp [bind, Except.bind]

theorem pure_eq_ok_iff {a b : α} : (pure a : Except ε α) = .ok b ↔ b = a := by
  simp [pure, Except.pure, eq_comm]

theorem map_eq_ok_iff {x : Except ε α} {f : α → β} {b : β} :
    x.map f = .ok b ↔ ∃ a, x = .ok a ∧ b = f a := by
  cases x with
  | error e => simp [Except.map]
  | ok a => simp [Except.map, eq_comm]

/-- A step for each element succeeds if all of them do, with their results in order. -/
theorem mapM_eq_ok_iff {f : α → Except ε β} {l : List α} {r : List β} :
    l.mapM f = .ok r ↔ List.Forall₂ (fun a b => f a = .ok b) l r := by
  induction l generalizing r with
  | nil => simp [pure_eq_ok_iff]
  | cons a l ih =>
      simp only [List.mapM_cons, bind_eq_ok_iff, pure_eq_ok_iff, ih, List.forall₂_cons_left_iff]
      constructor
      · intro h
        rcases h with ⟨b, hb, later, hlater, rfl⟩
        exact ⟨b, later, hb, hlater, rfl⟩
      · intro h
        rcases h with ⟨b, later, hb, hlater, rfl⟩
        exact ⟨b, hb, later, hlater, rfl⟩

/-- A step for each element succeeds for any one of them. -/
theorem exists_eq_ok_of_mem {f : α → Except ε β} {l : List α} {r : List β}
    (h : List.Forall₂ (fun a b => f a = .ok b) l r) {a : α} (ha : a ∈ l) : ∃ b, f a = .ok b := by
  induction h with
  | nil => simp at ha
  | cons hfirst _ ih =>
      rcases List.mem_cons.1 ha with rfl | hlater
      · exact ⟨_, hfirst⟩
      · exact ih hlater

/-- What the steps give is what each of them gives. -/
theorem mem_results_iff {f : α → Except ε β} {l : List α} {r : List β}
    (h : List.Forall₂ (fun a b => f a = .ok b) l r) {b : β} : b ∈ r ↔ ∃ a ∈ l, f a = .ok b := by
  induction h with
  | nil => simp
  | @cons a first l r hfirst _ ih =>
      rw [List.mem_cons, List.exists_mem_cons_iff, ih, hfirst, Except.ok.injEq, eq_comm]

/-- Steps for some of the elements give some of the results, in the same order. -/
theorem results_sublist {f : α → Except ε β} {l l' : List α} {r r' : List β} (hl : l.Sublist l')
    (h : List.Forall₂ (fun a b => f a = .ok b) l r)
    (h' : List.Forall₂ (fun a b => f a = .ok b) l' r') : r.Sublist r' := by
  -- An entry that both lists have gives one result, as the step is a function.
  induction hl generalizing r r' with
  | slnil =>
      cases h
      exact List.nil_sublist r'
  | cons a _ ih =>
      rcases List.forall₂_cons_left_iff.1 h' with ⟨b, later, -, hlater, rfl⟩
      exact (ih h hlater).cons b
  | cons_cons a _ ih =>
      rcases List.forall₂_cons_left_iff.1 h with ⟨b, rest, hb, hrest, rfl⟩
      rcases List.forall₂_cons_left_iff.1 h' with ⟨b', later, hb', hlater, rfl⟩
      obtain rfl : b = b' := Except.ok.inj (hb.symm.trans hb')
      exact (ih hrest hlater).cons_cons b

/-! ## Failure -/

/-- A sequence fails at its first step, or at its second after the first has succeeded. -/
theorem bind_eq_error_iff {x : Except ε α} {f : α → Except ε β} {e : ε} :
    (x >>= f) = .error e ↔ x = .error e ∨ ∃ a, x = .ok a ∧ f a = .error e := by
  cases x with
  | error e' => simp [bind, Except.bind]
  | ok a => simp [bind, Except.bind]

theorem map_eq_error_iff {x : Except ε α} {f : α → β} {e : ε} :
    x.map f = .error e ↔ x = .error e := by
  cases x with
  | error e' => simp [Except.map]
  | ok a => simp [Except.map]

theorem pure_ne_error {a : α} {e : ε} : (pure a : Except ε α) ≠ .error e := by
  simp [pure, Except.pure]

/-- Where a step for each element fails, one of the steps fails in the same way. -/
theorem exists_of_mapM_eq_error {f : α → Except ε β} {l : List α} {e : ε}
    (h : l.mapM f = .error e) : ∃ a ∈ l, f a = .error e := by
  induction l with
  | nil => simp [pure_ne_error] at h
  | cons a l ih =>
      simp only [List.mapM_cons, bind_eq_error_iff, pure_ne_error, and_false, exists_false,
        or_false] at h
      rcases h with hfirst | ⟨b, -, hlater⟩
      · exact ⟨a, List.mem_cons_self, hfirst⟩
      · rcases ih hlater with ⟨c, hc, hfails⟩
        exact ⟨c, List.mem_cons_of_mem a hc, hfails⟩

theorem exists_error_iff {x : Except ε α} : (∃ e, x = .error e) ↔ ¬ ∃ a, x = .ok a := by
  cases x with
  | error e => simp
  | ok a => simp

end Outcome
end GoSurvey
