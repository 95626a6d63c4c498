import Mathlib.Logic.Function.Iterate
import GoSurvey.Proofs.TypeTexts

/-!
# Pointers added to types

A pointer can be added to a shape, or a star to its text. The shapes go from plain to pointer and
then to unsupported, each with a rule of its own for the text, and a reader of texts takes off one
star only. This file says that the two ways stay in step, however often they are gone.

* `TypeShape.starred` — a text behind a number of stars;
* `TypeShape.parse_star_eq_ok_iff` — what is read behind one star is a shape without a pointer;
* `TypeShape.Follows` — how a shape and a text in step compare, and `Follows.toPointer`, one more
  pointer;
* `TypeShape.toPointer_iterate_follows_stars` — any number of pointers.
-/

namespace GoSurvey
namespace TypeShape

/-! ## Texts -/

def starred (n : Nat) (text : String) : String :=
  String.ofList (List.replicate n '*') ++ text

@[simp]
theorem starred_zero (text : String) : starred 0 text = text := by
  simp [starred]

/-- One more star stands before the others. -/
theorem starred_succ (n : Nat) (text : String) : starred (n + 1) text = "*" ++ starred n text := by
  simp [starred, List.replicate_succ, ← String.toList_inj]

/-- Adding a pointer puts a star before the text that is shown, for shapes of any kind. -/
theorem display_toPointer (shape : TypeShape) :
    shape.toPointer.display = "*" ++ shape.display := by
  cases shape <;> simp [toPointer, display, canonical?, String.append_assoc]

theorem display_iterate_toPointer (n : Nat) (shape : TypeShape) :
    (toPointer^[n] shape).display = starred n shape.display := by
  induction n with
  | zero => simp
  | succ n ih => rw [Function.iterate_succ_apply', display_toPointer, ih, starred_succ]

/-! ## One star -/

theorem isPlain_toPointer {shape : TypeShape} (h : shape.IsPlain) : shape.toPointer.IsPlain := by
  cases shape with
  | ident name => exact h
  | qualified package name => exact h
  | _ => simp [IsPlain, toPointer, names]

/-- A shape without a pointer keeps its text behind a star. -/
theorem canonical_toPointer {shape : TypeShape} {text : String} (hpointer : shape.isPointer = false)
    (h : shape.canonical? = some text) : shape.toPointer.canonical? = some ("*" ++ text) := by
  cases shape with
  | ident name =>
      obtain rfl := Option.some.inj h
      rfl
  | qualified package name =>
      obtain rfl := Option.some.inj h
      simp [toPointer, canonical?, String.append_assoc]
  | pointerIdent name => simp [isPointer] at hpointer
  | pointerQualified package name => simp [isPointer] at hpointer
  | unsupported kind text => simp [canonical?] at h

/-- A second pointer is more than the survey resolves, and the whole text is kept. -/
theorem toPointer_of_isPointer {shape : TypeShape} (h : shape.isPointer = true) :
    shape.toPointer = unsupported "pointer_type" ("*" ++ shape.display) := by
  cases shape with
  | pointerIdent name => rfl
  | pointerQualified package name => rfl
  | _ => simp [isPointer] at h

/-- A text behind a star is read exactly if the text is, as a shape without a pointer. -/
theorem parse_star_eq_ok_iff {text : String} {shape : TypeShape} :
    parse ("*" ++ text) = .ok shape ↔
      ∃ target, parse text = .ok target ∧ target.isPointer = false ∧ shape = target.toPointer := by
  simp only [parse_eq_ok_iff]
  constructor
  · rintro ⟨hplain, htext⟩
    -- The text starts with a star, so what it spells is a pointer, to what the rest of it spells.
    have hpointer : shape.isPointer = true :=
      (head?_canonical hplain htext).2 ⟨text.toList, by simp⟩
    cases shape with
    | pointerIdent name =>
        obtain rfl : name = text := by simpa [canonical?] using htext
        exact ⟨ident name, ⟨hplain, rfl⟩, rfl, rfl⟩
    | pointerQualified package name =>
        obtain rfl : package ++ "." ++ name = text := by
          simpa [canonical?, String.append_assoc] using htext
        exact ⟨qualified package name, ⟨hplain, rfl⟩, rfl, rfl⟩
    | _ => simp [isPointer] at hpointer
  · rintro ⟨target, ⟨hplain, htext⟩, hpointer, rfl⟩
    exact ⟨isPlain_toPointer hplain, canonical_toPointer hpointer htext⟩

/-! ## Shapes and texts in step -/

/-- How a shape compares with the text that stands for it: the text is read as the shape, or the
text is refused and the shape is that of an unsupported pointer with this text. -/
inductive Follows (text : String) (shape : TypeShape) : Prop where
  | read (hread : parse text = .ok shape)
  | refused (hrefused : ∀ other, parse text ≠ .ok other)
      (hshape : shape = unsupported "pointer_type" text)

theorem Follows.toPointer {text : String} {shape : TypeShape} (h : Follows text shape) :
    Follows ("*" ++ text) shape.toPointer := by
  cases h with
  | read hread =>
      cases hpointer : shape.isPointer with
      | false => exact .read (parse_star_eq_ok_iff.2 ⟨shape, hread, hpointer, rfl⟩)
      | true =>
          -- The one star that a reader takes off is there already.
          refine .refused ?_ ?_
          · intro other hother
            rcases parse_star_eq_ok_iff.1 hother with ⟨target, htarget, hplain, -⟩
            obtain rfl : shape = target := Except.ok.inj (hread.symm.trans htarget)
            simp [hpointer] at hplain
          · rw [toPointer_of_isPointer hpointer,
              display_eq_of_canonical (parse_eq_ok_iff.1 hread).2]
  | refused hrefused hshape =>
      -- What has been refused stays refused behind a star.
      subst hshape
      refine .refused ?_ rfl
      intro other hother
      rcases parse_star_eq_ok_iff.1 hother with ⟨target, htarget, -, -⟩
      exact hrefused target htarget

/-- The shape goes on following the text through any number of stars. -/
theorem Follows.iterate_toPointer {text : String} {shape : TypeShape} (h : Follows text shape)
    (n : Nat) : Follows (starred n text) (TypeShape.toPointer^[n] shape) := by
  induction n with
  | zero => simpa using h
  | succ n ih =>
      rw [Function.iterate_succ_apply', starred_succ]
      exact ih.toPointer

/-- A shape that follows a text is resolved exactly if the text is read. -/
theorem Follows.resolves_iff {text : String} {shape : TypeShape} (h : Follows text shape) :
    (∃ resolved, shape.resolve = .ok resolved) ↔ ∃ other, parse text = .ok other := by
  cases h with
  | read hread =>
      have hresolve := resolve_eq_of_canonical (parse_eq_ok_iff.1 hread).2
      exact ⟨fun _ => ⟨shape, hread⟩, fun _ => ⟨_, hresolve⟩⟩
  | refused hrefused hshape =>
      subst hshape
      constructor
      · rintro ⟨resolved, hresolved⟩
        simp [resolve] at hresolved
      · rintro ⟨other, hother⟩
        exact absurd hother (hrefused other)

/-- An unsupported shape keeps its kind, and its text goes behind the stars. -/
theorem iterate_toPointer_unsupported (n : Nat) (kind text : String) :
    toPointer^[n] (unsupported kind text) = unsupported kind (starred n text) := by
  induction n with
  | zero => simp
  | succ n ih => rw [Function.iterate_succ_apply', ih, toPointer, starred_succ]

/-- Pointers that are added to the shape of a text give a shape that is written as the text behind
as many stars. It is resolved exactly if that text is read, and then is the shape which the text is
read as; otherwise it is an unsupported pointer with that text. An unsupported shape keeps its
kind. -/
theorem toPointer_iterate_follows_stars (n : Nat) :
    (∀ (text : String) (shape : TypeShape), parse text = .ok shape →
      (toPointer^[n] shape).display = starred n text ∧
      ((∃ resolved, (toPointer^[n] shape).resolve = .ok resolved) ↔
        ∃ other, parse (starred n text) = .ok other) ∧
      (∀ other, parse (starred n text) = .ok other → toPointer^[n] shape = other) ∧
      ((∀ other, parse (starred n text) ≠ .ok other) →
        toPointer^[n] shape = unsupported "pointer_type" (starred n text))) ∧
    ∀ kind text : String,
      toPointer^[n] (unsupported kind text) = unsupported kind (starred n text) := by
  refine ⟨?_, iterate_toPointer_unsupported n⟩
  intro text shape hread
  -- Whatever the number of stars, text and shape are still in step.
  have hfollows := (Follows.read hread).iterate_toPointer n
  refine ⟨?_, hfollows.resolves_iff, ?_, ?_⟩
  · rw [display_iterate_toPointer, display_eq_of_canonical (parse_eq_ok_iff.1 hread).2]
  · intro other hother
    cases hfollows with
    | read hsame => exact Except.ok.inj (hsame.symm.trans hother)
    | refused hrefused _ => exact absurd hother (hrefused other)
  · intro hrefused
    cases hfollows with
    | read hsame => exact absurd hsame (hrefused _)
    | refused _ hshape => exact hshape

/-- A qualified name behind one star is read, and behind two it is not. -/
theorem toPointer_iterate_follows_stars_qualified :
    parse "time.Time" = .ok (qualified "time" "Time") ∧
      toPointer^[1] (qualified "time" "Time") = pointerQualified "time" "Time" ∧
      toPointer^[2] (qualified "time" "Time") = unsupported "pointer_type" "**time.Time" := by
  have hread : parse "time.Time" = .ok (qualified "time" "Time") := by decide +kernel
  have hone : parse (starred 1 "time.Time") = .ok (pointerQualified "time" "Time") := by
    decide +kernel
  have htwo : parse (starred 2 "time.Time") = .error ⟨"text", "**time.Time"⟩ := by decide +kernel
  refine ⟨hread, ?_, ?_⟩
  · exact ((toPointer_iterate_follows_stars 1).1 _ _ hread).2.2.1 _ hone
  · exact ((toPointer_iterate_follows_stars 2).1 _ _ hread).2.2.2 (by simp [htwo])

end TypeShape
end GoSurvey
