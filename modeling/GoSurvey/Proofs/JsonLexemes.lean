import GoSurvey.Proofs.JsonGrammar
import Mathlib.Data.List.TakeWhile

/-!
# Cutting spelled tokens

Each spelling of a string, a number or a word is cut off as one token, whatever text follows it. Only
a number has to be followed by something that cannot continue it.

* `Json.NumberStops` — the texts that cannot continue a number;
* `Json.signs` — the tokens of one character;
* `Json.tokens?_spelledString`, `Json.tokens?_number` — a spelled token and the tokens of the rest.
-/

namespace GoSurvey
namespace Json

open Text

variable {rest : List Char}

/-! ## Tokens -/

/-- White space separates tokens and is none. -/
theorem tokens?_cons_of_isSpace {c : Char} (hc : isSpace c = true) (s : List Char) :
    tokens? (c :: s) = tokens? s := by
  rw [tokens?]
  simp [hc]

/-- A text that starts with a lexeme has its token and the tokens of the rest. -/
theorem tokens?_cons_append {c : Char} {s : List Char} {t : Token} (hc : isSpace c = false)
    (hlexeme : lexeme? c (s ++ rest) = some (t, s.length)) :
    tokens? (c :: (s ++ rest)) = (tokens? rest).map (t :: ·) := by
  rw [tokens?]
  simp [hc, hlexeme]

def signs : List (Char × Token) :=
  [('[', .openArr), (']', .closeArr), ('\x7b', .openObj), ('\x7d', .closeObj), (':', .colon),
   (',', .comma)]

/-- Brackets, commas and colons are tokens by themselves. -/
theorem tokens?_sign {c : Char} {t : Token} (hsign : (c, t) ∈ signs) (rest : List Char) :
    tokens? (c :: rest) = (tokens? rest).map (t :: ·) := by
  simp only [signs, List.mem_cons, List.not_mem_nil, or_false, Prod.mk.injEq] at hsign
  rcases hsign with h | h | h | h | h | h <;> rcases h with ⟨rfl, rfl⟩ <;>
    exact tokens?_cons_append (s := []) rfl rfl

/-- Spacing before a text changes none of its tokens. -/
theorem tokens?_spacing {s : List Char} (h : IsSpacing s) (rest : List Char) :
    tokens? (s ++ rest) = tokens? rest := by
  induction s with
  | nil => rfl
  | cons c s ih =>
      rcases List.forall_mem_cons.1 h with ⟨hc, hs⟩
      rw [List.cons_append, tokens?_cons_of_isSpace hc, ih hs]

theorem tokens?_null (rest : List Char) :
    tokens? (['n', 'u', 'l', 'l'] ++ rest) = (tokens? rest).map (.scalar null :: ·) :=
  tokens?_cons_append (s := ['u', 'l', 'l']) rfl rfl

theorem tokens?_true (rest : List Char) :
    tokens? (['t', 'r', 'u', 'e'] ++ rest) = (tokens? rest).map (.scalar (bool true) :: ·) :=
  tokens?_cons_append (s := ['r', 'u', 'e']) rfl rfl

theorem tokens?_false (rest : List Char) :
    tokens? (['f', 'a', 'l', 's', 'e'] ++ rest) = (tokens? rest).map (.scalar (bool false) :: ·) :=
  tokens?_cons_append (s := ['a', 'l', 's', 'e']) rfl rfl

/-! ## Strings -/

/-- A piece of a string gives its unit and takes its characters. -/
theorem readString_piece {piece : List Char} {u : Nat} (h : IsPiece piece u) (s : List Char) :
    readString (piece ++ s) =
      (readString s).map fun (units, n) => (u :: units, n + piece.length) := by
  cases h with
  | @plain c hquote hbackslash hcontrol => simp [readString, hquote, hbackslash, hcontrol]
  | @short e c hescape =>
      -- The letter of a long escape is that of no short one.
      have hletter : e ≠ 'u' := by
        rintro rfl
        simp [simpleEscape?] at hescape
      cases hread : readString s <;> simp [readString, hletter, hescape, hread]
  | code hdigits => cases hread : readString s <;> simp [readString, hdigits, hread]

/-- A string is read up to its closing quote. -/
theorem readString_units {s : List Char} {units : List Nat} (h : SpellsUnits s units)
    (rest : List Char) : readString (s ++ '"' :: rest) = some (units, s.length + 1) := by
  induction h with
  | nil => simp [readString]
  | @cons piece s u units hpiece _ ih =>
      have hlength : s.length + 1 + piece.length = (piece ++ s).length + 1 := by
        rw [List.length_append]
        omega
      simp only [List.append_assoc, readString_piece hpiece, ih, Option.map_some, hlength]

/-- What the reader combines is a text of the units. -/
theorem combines_of_combine? {units : List Nat} {cs : List Char} (h : combine? units = some cs) :
    Combines units cs := by
  fun_induction combine? units generalizing cs with
  | case1 =>
      obtain rfl := Option.some.inj h
      exact .nil
  | case2 u hhalf => simp at h
  | case3 u hhalf =>
      obtain rfl := Option.some.inj h
      simp only [Bool.or_eq_true, not_or, Bool.not_eq_true] at hhalf
      exact .single hhalf.1 hhalf.2 .nil
  -- A first half and a second one are one character; a half by itself is none.
  | case4 u v rest hhigh hlow ih =>
      rcases Option.map_eq_some_iff.1 h with ⟨later, hlater, rfl⟩
      exact .pair hhigh hlow (ih hlater)
  | case5 u v rest hhigh hlow => simp at h
  | case6 u v rest hhigh hlow => simp at h
  | case7 u v rest hhigh hlow ih =>
      rcases Option.map_eq_some_iff.1 h with ⟨later, hlater, rfl⟩
      exact .single (by simpa using hhigh) (by simpa using hlow) (ih hlater)

/-- Units that combine to a text are combined to it. -/
theorem combine?_of_combines {units : List Nat} {cs : List Char} (h : Combines units cs) :
    combine? units = some cs := by
  induction h with
  | nil => rfl
  | @single u units cs hhigh hlow _ ih =>
      -- The reader looks at the next unit as well, but only behind a first half.
      cases units with
      | nil =>
          obtain rfl : [] = cs := by simpa [combine?] using ih
          simp [combine?, hhigh, hlow]
      | cons v units => simp [combine?, hhigh, hlow, ih]
  | pair hhigh hlow _ ih => simp [combine?, hhigh, hlow, ih]

/-- Whatever follows, what stands in quotes is cut off as one token. -/
theorem tokens?_quoted {body : List Char} {units : List Nat} (h : SpellsUnits body units)
    (rest : List Char) :
    tokens? ('"' :: (body ++ ['"']) ++ rest) =
      (tokens? rest).map (.str ((combine? units).map String.ofList) :: ·) := by
  refine tokens?_cons_append rfl ?_
  simp [lexeme?, readString_units h]

/-- A spelled string is cut off as one token. -/
theorem tokens?_spelledString {text : Option String} {s : List Char} (h : SpellsString text s)
    (rest : List Char) : tokens? (s ++ rest) = (tokens? rest).map (.str text :: ·) := by
  cases h with
  | text hbody htext =>
      rw [tokens?_quoted hbody, combine?_of_combines htext, Option.map_some, String.ofList_toList]
  | @noText _ units hbody hnone =>
      have hcombine : combine? units = none :=
        Option.eq_none_iff_forall_ne_some.2 fun cs hcs => hnone cs (combines_of_combine? hcs)
      rw [tokens?_quoted hbody, hcombine, Option.map_none]

/-! ## Numbers -/

def NumberStops (rest : List Char) : Prop :=
  ∀ c ∈ rest.head?, isDigit c = false ∧ c ≠ '.' ∧ c ≠ 'e' ∧ c ≠ 'E'

theorem numberStops_nil : NumberStops [] := by
  simp [NumberStops]

/-- Digits are counted up to something that is none. -/
theorem digitRun_append {digits : List Char} (hdigits : ∀ c ∈ digits, isDigit c = true)
    (hrest : ∀ c ∈ rest.head?, isDigit c = false) : digitRun (digits ++ rest) = digits.length := by
  have hstop : rest.takeWhile isDigit = [] := by
    cases rest with
    | nil => rfl
    | cons c rest => simp [hrest c rfl]
  rw [digitRun, List.takeWhile_append_of_pos hdigits, hstop, List.append_nil]

/-- What follows the fraction starts with no digit and no point. -/
theorem head?_exponent {exponent : List Char} (h : IsExponent exponent) (hrest : NumberStops rest) :
    ∀ c ∈ (exponent ++ rest).head?, isDigit c = false ∧ c ≠ '.' := by
  cases h with
  | absent => exact fun c hc => ⟨(hrest c hc).1, (hrest c hc).2.1⟩
  | digits hletter _ _ =>
      intro c hc
      obtain rfl := Option.some.inj hc
      rcases hletter with rfl | rfl <;> decide

/-- What follows the whole part starts with no digit. -/
theorem head?_fraction {fraction : List Char} (h : IsFraction fraction)
    (hrest : ∀ c ∈ rest.head?, isDigit c = false) :
    ∀ c ∈ (fraction ++ rest).head?, isDigit c = false := by
  cases h with
  | absent => exact hrest
  | digits _ =>
      intro c hc
      obtain rfl := Option.some.inj hc
      decide

/-- The digits before the point are taken in full. -/
theorem wholeExtent?_append {whole : List Char} (h : IsWhole whole)
    (hrest : ∀ c ∈ rest.head?, isDigit c = false) :
    wholeExtent? (whole ++ rest) = some whole.length := by
  cases h with
  | zero => rfl
  | @digits c s hzero hdigits =>
      have hrun := digitRun_append hdigits hrest
      rw [List.cons_append] at hrun ⊢
      unfold wholeExtent?
      split
      next tail htail => exact absurd (List.cons.inj htail).1 hzero
      next => rw [hrun, if_neg (by simp)]

/-- The point and the digits after it are taken in full. -/
theorem fractionExtent?_append {fraction : List Char} (h : IsFraction fraction)
    (hrest : ∀ c ∈ rest.head?, isDigit c = false ∧ c ≠ '.') :
    fractionExtent? (fraction ++ rest) = some fraction.length := by
  cases h with
  | absent =>
      rw [List.nil_append]
      unfold fractionExtent?
      split
      next s => exact absurd rfl (hrest '.' rfl).2
      next => rfl
  | digits hdigits =>
      have hrun := digitRun_append hdigits.2 fun c hc => (hrest c hc).1
      simp [fractionExtent?, hrun, hdigits.1]

/-- A sign is taken if one stands before the digits. -/
theorem signExtent_append {sign s : List Char} (hsign : sign = [] ∨ sign = ['+'] ∨ sign = ['-'])
    (hs : IsDigits s) (rest : List Char) : signExtent (sign ++ (s ++ rest)) = sign.length := by
  -- Without a sign the digits come first, and no digit is a sign.
  rcases hsign with rfl | rfl | rfl
  · rcases List.exists_cons_of_ne_nil hs.1 with ⟨c, later, rfl⟩
    have hdigit : isDigit c = true := hs.2 c List.mem_cons_self
    simp only [List.nil_append, List.cons_append]
    unfold signExtent
    split
    next htail =>
      obtain rfl := (List.cons.inj htail).1
      exact absurd hdigit (by decide)
    next htail =>
      obtain rfl := (List.cons.inj htail).1
      exact absurd hdigit (by decide)
    next => rfl
  · rfl
  · rfl

/-- Without an exponent nothing is taken. -/
theorem exponentExtent?_of_numberStops (hrest : NumberStops rest) :
    exponentExtent? rest = some 0 := by
  cases rest with
  | nil => rfl
  | cons c s =>
      rcases hrest c rfl with ⟨-, -, hlower, hupper⟩
      simp [exponentExtent?, hlower, hupper]

/-- An exponent is taken in full. -/
theorem exponentExtent?_append {exponent : List Char} (h : IsExponent exponent)
    (hrest : NumberStops rest) : exponentExtent? (exponent ++ rest) = some exponent.length := by
  cases h with
  | absent => exact exponentExtent?_of_numberStops hrest
  | @digits e sign s hletter hsign hdigits =>
      have hrun := digitRun_append hdigits.2 fun c hc => (hrest c hc).1
      have hpositive : s.length ≠ 0 := by simpa using hdigits.1
      simp only [List.cons_append, List.append_assoc, exponentExtent?, if_pos hletter,
        signExtent_append hsign hdigits, List.drop_left, hrun, if_neg hpositive, List.length_cons,
        List.length_append]
      congr 1
      omega

/-- A number starts with a digit or a minus sign. -/
theorem IsNumber.exists_head {s : List Char} (h : IsNumber s) :
    ∃ c later, s = c :: later ∧ (isDigit c = true ∨ c = '-') := by
  cases h with
  | parts hminus hwhole _ _ =>
      rcases hminus with rfl | rfl
      · cases hwhole with
        | zero => exact ⟨_, _, rfl, Or.inl rfl⟩
        | digits _ hdigits => exact ⟨_, _, rfl, Or.inl (hdigits _ List.mem_cons_self)⟩
      · exact ⟨_, _, rfl, Or.inr rfl⟩

/-- A minus is taken if one stands before the digits. -/
theorem minusExtent_append {minus whole : List Char} (hminus : minus = [] ∨ minus = ['-'])
    (hwhole : IsWhole whole) (rest : List Char) :
    (if (minus ++ (whole ++ rest)).head? = some '-' then 1 else 0) = minus.length := by
  rcases hminus with rfl | rfl
  · cases hwhole with
    | zero => rfl
    | @digits c s _ hdigits =>
        have hdigit : isDigit c = true := hdigits c List.mem_cons_self
        refine if_neg ?_
        rintro hhead
        obtain rfl := Option.some.inj hhead
        exact absurd hdigit (by decide)
  · rfl

/-- The extent of a number is all of it, where the text after it cannot continue it. -/
theorem numberExtent?_append {s : List Char} (h : IsNumber s) (hrest : NumberStops rest) :
    numberExtent? (s ++ rest) = some s.length := by
  cases h with
  | @parts minus whole fraction exponent hminus hwhole hfraction hexponent =>
      -- What is left to read after each of the parts.
      have hafterMinus : (minus ++ (whole ++ (fraction ++ (exponent ++ rest)))).drop minus.length =
          whole ++ (fraction ++ (exponent ++ rest)) := List.drop_left
      have hafterWhole : (minus ++ (whole ++ (fraction ++ (exponent ++ rest)))).drop
          (minus.length + whole.length) = fraction ++ (exponent ++ rest) := by
        rw [← List.drop_drop, hafterMinus, List.drop_left]
      have hafterFraction : (minus ++ (whole ++ (fraction ++ (exponent ++ rest)))).drop
          (minus.length + whole.length + fraction.length) = exponent ++ rest := by
        rw [← List.drop_drop, hafterWhole, List.drop_left]
      have hhead := head?_exponent hexponent hrest
      have hwholeExtent := wholeExtent?_append hwhole
        (head?_fraction hfraction fun c hc => (hhead c hc).1)
      simp only [List.append_assoc, numberExtent?, minusExtent_append hminus hwhole, hafterMinus,
        hwholeExtent, hafterWhole, fractionExtent?_append hfraction hhead, hafterFraction,
        exponentExtent?_append hexponent hrest, Option.bind_eq_bind, Option.bind_some,
        List.length_append]
      rw [Nat.add_assoc, Nat.add_assoc]

theorem lexeme?_of_isDigit {c : Char} (hc : isDigit c = true) (s : List Char) :
    lexeme? c s =
      (numberExtent? (c :: s)).map fun n => (.scalar (ofLiteral ((c :: s).take n)), n - 1) := by
  unfold lexeme?
  split
  iterate 7 exact absurd hc (by decide)
  next => simp [hc]

/-- A digit or a minus starts a number. -/
theorem lexeme?_of_startsNumber {c : Char} (hc : isDigit c = true ∨ c = '-') (s : List Char) :
    lexeme? c s =
      (numberExtent? (c :: s)).map fun n => (.scalar (ofLiteral ((c :: s).take n)), n - 1) := by
  rcases hc with hdigit | rfl
  · exact lexeme?_of_isDigit hdigit s
  · rfl

theorem isSpace_of_startsNumber {c : Char} (hc : isDigit c = true ∨ c = '-') :
    isSpace c = false := by
  cases hspace : isSpace c with
  | false => rfl
  | true =>
      simp only [isSpace, Bool.or_eq_true, beq_iff_eq] at hspace
      rcases hspace with ((rfl | rfl) | rfl) | rfl <;> exact absurd hc (by decide)

/-- A spelled number is cut off as one token, where nothing goes on with it. -/
theorem tokens?_number {s : List Char} (h : IsNumber s) (hrest : NumberStops rest) :
    tokens? (s ++ rest) = (tokens? rest).map (.scalar (ofLiteral s) :: ·) := by
  have hextent := numberExtent?_append h hrest
  rcases h.exists_head with ⟨c, later, rfl, hc⟩
  refine tokens?_cons_append (isSpace_of_startsNumber hc) ?_
  rw [List.cons_append] at hextent
  rw [lexeme?_of_startsNumber hc, hextent, Option.map_some, ← List.cons_append, List.take_left]
  rfl

end Json
end GoSurvey
