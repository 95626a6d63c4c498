import Mathlib.Logic.Function.Defs
import GoSurvey.Text.Cut
import GoSurvey.Text.Quoted

/-!
# Quoted text can be read back

The written form of a character shows where it ends and which character it is, so that a quoted text
stands for one text only.

* `Text.QuotedForm` — the three written forms of a character;
* `Text.QuotedForm.append_inj` — no form starts another one;
* `Text.quote_injective` — different texts are quoted differently.
-/

namespace GoSurvey
namespace Text

/-- A text is cut at a separator in one way only, if the separator is not in what stands before. -/
theorem append_cons_inj {α : Type} [DecidableEq α] {sep : α} {s s' t t' : List α} (hs : sep ∉ s)
    (hs' : sep ∉ s') (h : s ++ sep :: t = s' ++ sep :: t') : s = s' ∧ t = t' := by
  have hcut : some (s, t) = some (s', t') :=
    (cut?_eq_some_iff.2 ⟨hs, rfl⟩).symm.trans (cut?_eq_some_iff.2 ⟨hs', h⟩)
  simpa using hcut

/-! ## Hexadecimal digits -/

theorem digitChar_inj : ∀ n < 16, ∀ m < 16, Nat.digitChar n = Nat.digitChar m → n = m := by
  decide

theorem brace_not_mem_toDigits (n : Nat) : '\x7d' ∉ Nat.toDigits 16 n := by
  induction n using Nat.strongRecOn with
  | ind n ih =>
      have hdigit : ∀ d, '\x7d' ≠ Nat.digitChar d := fun d =>
        (Nat.digitChar_ne '\x7d' (by decide)).symm
      rw [Nat.toDigits_eq_if (by decide)]
      split
      · simp [hdigit]
      · simp [hdigit, ih (n / 16) (by omega)]

/-- Different numbers have different hexadecimal digits. -/
theorem toDigits_injective : Function.Injective (Nat.toDigits 16) := by
  intro n
  induction n using Nat.strongRecOn with
  | ind n ih =>
      intro m h
      -- Numbers below sixteen are those with one digit.
      have hsmall : n < 16 ↔ m < 16 := by
        have hn := Nat.length_toDigits_le_iff (b := 16) (n := n) (k := 1) (by decide) (by decide)
        have hm := Nat.length_toDigits_le_iff (b := 16) (n := m) (k := 1) (by decide) (by decide)
        rw [h] at hn
        exact hn.symm.trans hm
      by_cases hn : n < 16
      · have hm : m < 16 := hsmall.1 hn
        rw [Nat.toDigits_of_lt_base hn, Nat.toDigits_of_lt_base hm] at h
        exact digitChar_inj n hn m hm (by simpa using h)
      · have hm : ¬ m < 16 := fun hm => hn (hsmall.2 hm)
        rw [Nat.toDigits_of_base_le (by decide) (Nat.le_of_not_lt hn),
          Nat.toDigits_of_base_le (by decide) (Nat.le_of_not_lt hm),
          List.append_singleton_inj] at h
        have hhigh : n / 16 = m / 16 := ih (n / 16) (by omega) h.1
        have hlow : n % 16 = m % 16 := digitChar_inj _ (by omega) _ (by omega) h.2
        omega

/-! ## Characters -/

/-- The characters that are written as a backslash and another character, with the latter. -/
def shortEscapes : List (Char × Char) :=
  [('"', '"'), ('\\', '\\'), ('\x00', '0'), ('\t', 't'), ('\n', 'n'), ('\r', 'r')]

/-- The ways in which a character is written. -/
inductive QuotedForm (c : Char) : List Char → Prop where
  | short {e : Char} (he : (c, e) ∈ shortEscapes) : QuotedForm c ['\\', e]
  | codePoint : QuotedForm c (codePointEscape c)
  | plain (hslash : c ≠ '\\') (hquote : c ≠ '"') : QuotedForm c [c]

/-- The three forms are the only ones a character is written in. -/
theorem quotedForm_quoteChar (c : Char) : QuotedForm c (quoteChar c) := by
  unfold quoteChar
  split
  all_goals try exact QuotedForm.short (by decide)
  next hquote hslash _ _ _ _ =>
    split
    · exact QuotedForm.codePoint
    · exact QuotedForm.plain hslash hquote

theorem shortEscapes_inj : ∀ p ∈ shortEscapes, ∀ q ∈ shortEscapes, p.2 = q.2 → p.1 = q.1 := by
  decide

theorem ne_u_of_mem_shortEscapes : ∀ p ∈ shortEscapes, p.2 ≠ 'u' := by
  decide

/-- An escape shows which character it stands for and where it ends. -/
theorem codePointEscape_append_inj {c d : Char} {s t : List Char}
    (h : codePointEscape c ++ s = codePointEscape d ++ t) : c = d ∧ s = t := by
  have hdigits : Nat.toDigits 16 c.toNat ++ '\x7d' :: s =
      Nat.toDigits 16 d.toNat ++ '\x7d' :: t := by
    simpa [codePointEscape] using h
  rcases append_cons_inj (brace_not_mem_toDigits _) (brace_not_mem_toDigits _) hdigits with
    ⟨hcode, hrest⟩
  exact ⟨Char.toNat_inj.1 (toDigits_injective hcode), hrest⟩

/-- The written form of a character shows which it is and where it ends: escapes start with a
backslash, and their second character tells the two kinds apart. -/
theorem QuotedForm.append_inj {c d : Char} {f g s t : List Char} (hf : QuotedForm c f)
    (hg : QuotedForm d g) (h : f ++ s = g ++ t) : c = d ∧ s = t := by
  cases hf with
  | short he =>
      cases hg with
      | short he' =>
          rcases List.cons.inj (List.cons.inj h).2 with ⟨hescape, hrest⟩
          exact ⟨shortEscapes_inj _ he _ he' hescape, hrest⟩
      | codePoint =>
          exact absurd (List.cons.inj (List.cons.inj h).2).1 (ne_u_of_mem_shortEscapes _ he)
      | plain hslash hquote => exact absurd (List.cons.inj h).1.symm hslash
  | codePoint =>
      cases hg with
      | short he' =>
          exact absurd (List.cons.inj (List.cons.inj h).2).1.symm (ne_u_of_mem_shortEscapes _ he')
      | codePoint => exact codePointEscape_append_inj h
      | plain hslash hquote => exact absurd (List.cons.inj h).1.symm hslash
  | plain hslash hquote =>
      cases hg with
      | short he' => exact absurd (List.cons.inj h).1 hslash
      | codePoint => exact absurd (List.cons.inj h).1 hslash
      | plain hslash' hquote' => exact List.cons.inj h

/-- No written form starts with a quote, so that the quote after a text is where the text ends. -/
theorem QuotedForm.append_ne_quote {c : Char} {f : List Char} (hf : QuotedForm c f)
    (s t : List Char) : f ++ s ≠ '"' :: t := by
  intro h
  cases hf with
  | short he => exact absurd (List.cons.inj h).1 (by decide)
  | codePoint => exact absurd (List.cons.inj h).1 (by decide)
  | plain hslash hquote => exact hquote (List.cons.inj h).1

/-! ## Texts -/

/-- The closing quote ends the text, as no character inside is written as a bare one. -/
theorem flatMap_quoteChar_inj {s t r r' : List Char}
    (h : s.flatMap quoteChar ++ '"' :: r = t.flatMap quoteChar ++ '"' :: r') : s = t := by
  induction s generalizing t with
  | nil =>
      cases t with
      | nil => rfl
      | cons d t =>
          rw [List.flatMap_cons, List.append_assoc] at h
          exact absurd h.symm ((quotedForm_quoteChar d).append_ne_quote _ _)
  | cons c s ih =>
      cases t with
      | nil =>
          rw [List.flatMap_cons, List.append_assoc] at h
          exact absurd h ((quotedForm_quoteChar c).append_ne_quote _ _)
      | cons d t =>
          rw [List.flatMap_cons, List.flatMap_cons, List.append_assoc, List.append_assoc] at h
          rcases (quotedForm_quoteChar c).append_inj (quotedForm_quoteChar d) h with ⟨rfl, hrest⟩
          rw [ih hrest]

/-- Different texts are quoted differently. -/
theorem quote_injective : Function.Injective quote := by
  intro s t h
  have hinner : s.flatMap quoteChar ++ ['"'] = t.flatMap quoteChar ++ ['"'] := by
    simpa [quote] using h
  exact flatMap_quoteChar_inj hinner

end Text
end GoSurvey
