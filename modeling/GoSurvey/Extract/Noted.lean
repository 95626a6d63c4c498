import GoSurvey.Model

/-!
# Results with diagnostics

A survey goes on after a part that it cannot resolve, and keeps a note of it. `Noted α` is a value
with the notes made on the way to it, in the order in which they were made.
-/

namespace GoSurvey

open Model

/-- A value and the diagnostics raised while it was computed. -/
structure Noted (α : Type) where
  value : α
  diagnostics : List Diagnostic

namespace Noted

variable {α β : Type}

protected def pure (a : α) : Noted α :=
  ⟨a, []⟩

/-- The diagnostics of the first computation come before those of the second. -/
protected def bind (x : Noted α) (f : α → Noted β) : Noted β :=
  let y := f x.value
  ⟨y.value, x.diagnostics ++ y.diagnostics⟩

instance : Monad Noted where
  pure := Noted.pure
  bind := Noted.bind

def note (d : Diagnostic) : Noted Unit :=
  ⟨(), [d]⟩

def each (f : α → Noted β) : List α → Noted (List β)
  | [] => pure []
  | a :: rest => do
      let b ← f a
      let bs ← each f rest
      pure (b :: bs)

@[simp] theorem value_pure (a : α) : (pure a : Noted α).value = a := rfl

@[simp] theorem diagnostics_pure (a : α) : (pure a : Noted α).diagnostics = [] := rfl

/-- Diagnostics do not influence what is computed from a value. -/
@[simp] theorem value_bind (x : Noted α) (f : α → Noted β) :
    (x >>= f).value = (f x.value).value := rfl

@[simp] theorem diagnostics_bind (x : Noted α) (f : α → Noted β) :
    (x >>= f).diagnostics = x.diagnostics ++ (f x.value).diagnostics := rfl

/-- The values of a loop are those of its turns. -/
@[simp] theorem value_each (f : α → Noted β) (l : List α) :
    (each f l).value = l.map fun a => (f a).value := by
  induction l with
  | nil => rfl
  | cons a rest ih => simp [each, ih]

/-- The diagnostics of a loop are those of its turns, one turn after the other. -/
@[simp] theorem diagnostics_each (f : α → Noted β) (l : List α) :
    (each f l).diagnostics = l.flatMap fun a => (f a).diagnostics := by
  induction l with
  | nil => rfl
  | cons a rest ih => simp [each, ih]

end Noted
end GoSurvey
