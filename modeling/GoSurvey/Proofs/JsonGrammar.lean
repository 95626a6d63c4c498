import GoSurvey.Json.Printer
import GoSurvey.Json.Reader

/-!
# The grammar of JSON texts

A document can be spelled in many ways: with spaces between its tokens, with escapes in its strings
and with numbers of any form. This file says which texts spell a document, and that the printed form
is one of them.

* `Json.SpellsUnits`, `Json.Combines` — what stands between quotes, and the text that it denotes;
* `Json.IsNumber` — the form of numbers;
* `Json.Spells`, `Json.IsTextOf` — the spellings of a document, without and with spaces around them;
* `Json.spells_write` — the printed form of a document spells it.
-/

namespace GoSurvey
namespace Json

open Text

/-! ## Strings -/

/-- What stands for one code unit of a string: a character by itself, a short escape, or an escape
by code unit. -/
inductive IsPiece : List Char → Nat → Prop where
  | plain {c : Char} (hquote : c ≠ '"') (hbackslash : c ≠ '\\') (hcontrol : ¬ c < ' ') :
      IsPiece [c] c.toNat
  | short {e c : Char} (hescape : simpleEscape? e = some c) : IsPiece ['\\', e] c.toNat
  | code {a b c d : Char} {u : Nat} (hdigits : hex4? a b c d = some u) :
      IsPiece ['\\', 'u', a, b, c, d] u

/-- The code units that are spelled between quotes. -/
inductive SpellsUnits : List Char → List Nat → Prop where
  | nil : SpellsUnits [] []
  | cons {piece s : List Char} {u : Nat} {units : List Nat} (hpiece : IsPiece piece u)
      (hrest : SpellsUnits s units) : SpellsUnits (piece ++ s) (u :: units)

/-- The text that code units denote: the two halves of a surrogate pair are one character, and no
half stands by itself. -/
inductive Combines : List Nat → List Char → Prop where
  | nil : Combines [] []
  | single {u : Nat} {units : List Nat} {cs : List Char} (hhigh : isHighHalf u = false)
      (hlow : isLowHalf u = false) (hrest : Combines units cs) :
      Combines (u :: units) (Char.ofNat u :: cs)
  | pair {u v : Nat} {units : List Nat} {cs : List Char} (hhigh : isHighHalf u = true)
      (hlow : isLowHalf v = true) (hrest : Combines units cs) :
      Combines (u :: v :: units)
        (Char.ofNat (0x10000 + (u - 0xD800) * 0x400 + (v - 0xDC00)) :: cs)

/-- The spellings of a string, quotes included, with the text if the code units denote one. -/
inductive SpellsString : Option String → List Char → Prop where
  | text {body : List Char} {units : List Nat} {s : String} (hbody : SpellsUnits body units)
      (htext : Combines units s.toList) : SpellsString (some s) ('"' :: (body ++ ['"']))
  | noText {body : List Char} {units : List Nat} (hbody : SpellsUnits body units)
      (hnone : ∀ cs, ¬ Combines units cs) : SpellsString none ('"' :: (body ++ ['"']))

/-! ## Numbers -/

def IsDigits (s : List Char) : Prop :=
  s ≠ [] ∧ ∀ c ∈ s, isDigit c = true

/-- The digits before the point: no zero stands before another digit. -/
inductive IsWhole : List Char → Prop where
  | zero : IsWhole ['0']
  | digits {c : Char} {s : List Char} (hzero : c ≠ '0') (hdigits : ∀ d ∈ c :: s, isDigit d = true) :
      IsWhole (c :: s)

/-- The point and the digits after it, or nothing. -/
inductive IsFraction : List Char → Prop where
  | absent : IsFraction []
  | digits {s : List Char} (hdigits : IsDigits s) : IsFraction ('.' :: s)

/-- The exponent with its sign, or nothing. -/
inductive IsExponent : List Char → Prop where
  | absent : IsExponent []
  | digits {e : Char} {sign s : List Char} (hletter : e = 'e' ∨ e = 'E')
      (hsign : sign = [] ∨ sign = ['+'] ∨ sign = ['-']) (hdigits : IsDigits s) :
      IsExponent (e :: (sign ++ s))

inductive IsNumber : List Char → Prop where
  | parts {minus whole fraction exponent : List Char} (hminus : minus = [] ∨ minus = ['-'])
      (hwhole : IsWhole whole) (hfraction : IsFraction fraction)
      (hexponent : IsExponent exponent) :
      IsNumber (minus ++ (whole ++ (fraction ++ exponent)))

/-! ## Documents -/

def IsSpacing (s : List Char) : Prop :=
  ∀ c ∈ s, isSpace c = true

/-- A spelling with the spaces around it, and what it spells. -/
structure Spaced (α : Type) where
  before : List Char
  text : List Char
  after : List Char
  value : α
  isSpacing_before : IsSpacing before
  isSpacing_after : IsSpacing after

theorem isSpacing_nil : IsSpacing [] := by
  simp [IsSpacing]

namespace Spaced

variable {α : Type}

def render (p : Spaced α) : List Char :=
  p.before ++ (p.text ++ p.after)

def bare (text : List Char) (value : α) : Spaced α :=
  ⟨[], text, [], value, isSpacing_nil, isSpacing_nil⟩

end Spaced

/-- A member of an object as it is spelled. -/
structure Member where
  key : Spaced (Option String)
  value : Spaced Json

namespace Member

def render (m : Member) : List Char :=
  m.key.render ++ ':' :: m.value.render

def entry (m : Member) : Option String × Json :=
  (m.key.value, m.value.value)

end Member

/-- The parts of an array or object with a separator between them. -/
def joined {α β : Type} (separator : β) (render : α → List β) : List α → List β
  | [] => []
  | first :: rest => render first ++ rest.flatMap fun a => separator :: render a

/-- The spellings of a document, without spaces around them. -/
inductive Spells : Json → List Char → Prop where
  | nullWord : Spells null ['n', 'u', 'l', 'l']
  | trueWord : Spells (bool true) ['t', 'r', 'u', 'e']
  | falseWord : Spells (bool false) ['f', 'a', 'l', 's', 'e']
  | number {s : List Char} (h : IsNumber s) : Spells (ofLiteral s) s
  | string {text : Option String} {s : List Char} (h : SpellsString text s) : Spells (str text) s
  | array {items : List (Spaced Json)} {spaces : List Char}
      (hitems : ∀ item ∈ items, Spells item.value item.text) (hspaces : IsSpacing spaces) :
      Spells (arr (items.map Spaced.value))
        ('[' :: (joined ',' Spaced.render items ++ (spaces ++ [']'])))
  | object {members : List Member} {spaces : List Char}
      (hkeys : ∀ m ∈ members, SpellsString m.key.value m.key.text)
      (hvalues : ∀ m ∈ members, Spells m.value.value m.value.text) (hspaces : IsSpacing spaces) :
      Spells (obj (members.map Member.entry))
        ('\x7b' :: (joined ',' Member.render members ++ (spaces ++ ['\x7d'])))

def IsTextOf (v : Json) (s : String) : Prop :=
  ∃ p : Spaced Json, p.value = v ∧ Spells v p.text ∧ s.toList = p.render

/-! ## Printed strings -/

/-- A hexadecimal digit has the value that it was written for. -/
theorem digitValue?_hexDigit : ∀ d < 16, digitValue? 16 (hexDigit d) = some d := by
  decide

/-- A control has a code point of two digits, which its long escape spells. -/
theorem hex4?_hexDigit {n : Nat} (hn : n < 256) :
    hex4? '0' '0' (hexDigit (n / 16)) (hexDigit (n % 16)) = some n := by
  have hzero : digitValue? 16 '0' = some 0 := by decide
  have hhigh := digitValue?_hexDigit (n / 16) (by omega)
  have hlow := digitValue?_hexDigit (n % 16) (by omega)
  simp only [hex4?, hzero, hhigh, hlow, Option.bind_eq_bind, Option.bind_some]
  congr 1
  omega

/-- Every character is written as a piece of a string that denotes it. -/
theorem isPiece_quoteChar (c : Char) : IsPiece (quoteChar c) c.toNat := by
  unfold quoteChar
  split
  -- Seven short escapes, then the controls and the characters that stand for themselves.
  iterate 7 exact .short rfl
  next hquote hbackslash _ _ _ _ _ =>
    -- All other controls have an escape by their code point, and it is short enough.
    by_cases hcontrol : c < ' '
    · have hsmall : c.toNat < 32 := hcontrol
      rw [if_pos hcontrol]
      exact .code (hex4?_hexDigit (by omega))
    · rw [if_neg hcontrol]
      exact .plain hquote hbackslash hcontrol

/-- A quoted text spells its code points, one unit for each. -/
theorem spellsUnits_quoteChar (cs : List Char) :
    SpellsUnits (cs.flatMap quoteChar) (cs.map Char.toNat) := by
  induction cs with
  | nil => exact .nil
  | cons c cs ih => exact .cons (isPiece_quoteChar c) ih

/-- No character is half of a surrogate pair. -/
theorem isHalf_toNat (c : Char) : isHighHalf c.toNat = false ∧ isLowHalf c.toNat = false := by
  have hvalid : c.toNat < 0xD800 ∨ 0xDFFF < c.toNat ∧ c.toNat < 0x110000 := c.valid
  simp only [isHighHalf, isLowHalf, Bool.and_eq_false_iff, decide_eq_false_iff_not]
  omega

/-- Code points are no halves of pairs, and so combine to their characters. -/
theorem combines_toNat (cs : List Char) : Combines (cs.map Char.toNat) cs := by
  induction cs with
  | nil => exact .nil
  | cons c cs ih =>
      rcases isHalf_toNat c with ⟨hhigh, hlow⟩
      have hsingle := Combines.single hhigh hlow ih
      rwa [Char.ofNat_toNat] at hsingle

/-- A printed string spells what was printed, be it a text or not. -/
theorem spellsString_quote (s : Option String) : SpellsString s (quote s) := by
  cases s with
  | some s => exact .text (spellsUnits_quoteChar s.toList) (combines_toNat s.toList)
  | none =>
      -- Half of a surrogate pair denotes no text.
      have hunits : SpellsUnits ['\\', 'u', 'd', '8', '0', '0'] [0xD800] :=
        .cons (.code (by decide)) .nil
      refine .noText hunits ?_
      intro cs hcombines
      cases hcombines with
      | single hhigh _ _ => exact absurd hhigh (by decide)

/-! ## Printed numbers -/

/-- A number is printed with digits only. -/
theorem isDigit_of_mem_toDigits {n : Nat} {c : Char} (hc : c ∈ Nat.toDigits 10 n) :
    isDigit c = true := by
  have h : c.isDigit = true := Nat.isDigit_of_mem_toDigits (by decide) (by decide) hc
  exact h

/-- The digits of a number have its value. -/
theorem natOfDigits_toDigits (n : Nat) : natOfDigits (Nat.toDigits 10 n) = n := by
  have h : Nat.ofDigitChars 10 (Nat.toDigits 10 n) 0 = n := Nat.ofDigitChars_ten_toDigits
  rw [Nat.ofDigitChars_eq_foldl] at h
  simpa [natOfDigits, Nat.mul_comm] using h

/-- The digits of a number are read as this number. -/
theorem ofLiteral_toDigits (n : Nat) : ofLiteral (Nat.toDigits 10 n) = nat n := by
  have hall : (Nat.toDigits 10 n).all isDigit = true :=
    List.all_eq_true.2 fun c => isDigit_of_mem_toDigits
  rw [ofLiteral, if_pos hall, natOfDigits_toDigits]

theorem digitChar_ne_zero : ∀ d < 10, 0 < d → Nat.digitChar d ≠ '0' := by
  decide

/-- Only zero is written with a leading zero. -/
theorem head?_toDigits_ne_zero {n : Nat} (hn : 0 < n) : (Nat.toDigits 10 n).head? ≠ some '0' := by
  induction n using Nat.strongRecOn with
  | ind n ih =>
      by_cases hsmall : n < 10
      · rw [Nat.toDigits_of_lt_base hsmall]
        simpa using digitChar_ne_zero n hsmall hn
      -- The first digit is that of the number without its last digit.
      · have hfewer := ih (n / 10) (by omega) (by omega)
        have hnonempty : Nat.toDigits 10 (n / 10) ≠ [] := Nat.toDigits_ne_nil
        rcases List.exists_cons_of_ne_nil hnonempty with ⟨c, later, hdigits⟩
        rw [Nat.toDigits_of_base_le (by decide) (by omega)]
        simpa [hdigits] using hfewer

/-- The digits of a number stand where digits before a point may stand. -/
theorem isWhole_toDigits (n : Nat) : IsWhole (Nat.toDigits 10 n) := by
  rcases Nat.eq_zero_or_pos n with rfl | hn
  · exact .zero
  · have hhead := head?_toDigits_ne_zero hn
    have hdigits : ∀ c ∈ Nat.toDigits 10 n, isDigit c = true := fun c => isDigit_of_mem_toDigits
    have hnonempty : Nat.toDigits 10 n ≠ [] := Nat.toDigits_ne_nil
    rcases List.exists_cons_of_ne_nil hnonempty with ⟨c, later, heq⟩
    rw [heq] at hhead hdigits ⊢
    exact .digits (by simpa using hhead) hdigits

/-- A printed number has the form of one. -/
theorem isNumber_toDigits (n : Nat) : IsNumber (Nat.toDigits 10 n) := by
  simpa using IsNumber.parts (Or.inl rfl) (isWhole_toDigits n) .absent .absent

/-! ## Printed documents -/

/-- The documents whose numbers are all written with digits only. -/
inductive NatOnly : Json → Prop where
  | null : NatOnly null
  | bool (b : Bool) : NatOnly (bool b)
  | nat (n : Nat) : NatOnly (nat n)
  | str (s : Option String) : NatOnly (str s)
  | arr {items : List Json} (hitems : ∀ v ∈ items, NatOnly v) : NatOnly (arr items)
  | obj {members : List (Option String × Json)} (hmembers : ∀ m ∈ members, NatOnly m.2) :
      NatOnly (obj members)

theorem isSpacing_blank : IsSpacing [' '] := by
  simp [IsSpacing, isSpace]

/-- A new line with its indentation is nothing but spacing. -/
theorem isSpacing_newline (depth : Nat) : IsSpacing (newline depth) := by
  intro c hc
  rcases List.mem_cons.1 hc with rfl | hc
  · rfl
  · rw [List.eq_of_mem_replicate hc]
    rfl

/-- An element of an array as it is printed: on a line of its own. -/
def printedItem (depth : Nat) (v : Json) : Spaced Json :=
  ⟨newline depth, write depth v, [], v, isSpacing_newline depth, isSpacing_nil⟩

/-- A member of an object as it is printed: on a line of its own, with a space before the value. -/
def printedMember (depth : Nat) (m : Option String × Json) : Member :=
  { key := ⟨newline depth, quote m.1, [], m.1, isSpacing_newline depth, isSpacing_nil⟩
    value := ⟨[' '], write depth m.2, [], m.2, isSpacing_blank, isSpacing_nil⟩ }

/-- Later elements are printed one by one, each behind a comma. -/
theorem writeItems_eq_flatMap (depth : Nat) (items : List Json) :
    writeItems depth items = items.flatMap fun v => ',' :: (printedItem depth v).render := by
  induction items with
  | nil => rfl
  | cons v items ih => simp [writeItems, ih, printedItem, Spaced.render]

/-- Later members are printed one by one, each behind a comma. -/
theorem writeMembers_eq_flatMap (depth : Nat) (members : List (Option String × Json)) :
    writeMembers depth members = members.flatMap fun m => ',' :: (printedMember depth m).render := by
  induction members with
  | nil => rfl
  | cons m members ih => simp [writeMembers, ih, printedMember, Member.render, Spaced.render]

/-- A printed array spells its elements, if each printed element does. -/
theorem spells_write_arr {items : List Json} (depth : Nat)
    (h : ∀ v ∈ items, Spells v (write (depth + 1) v)) : Spells (arr items) (write depth (arr items)) := by
  have hitems : ∀ item ∈ items.map (printedItem (depth + 1)), Spells item.value item.text :=
    List.forall_mem_map.2 h
  cases items with
  | nil => simpa [write, joined] using Spells.array hitems isSpacing_nil
  | cons v items =>
      have hspells := Spells.array hitems (isSpacing_newline depth)
      simpa [write, joined, writeItems_eq_flatMap, List.flatMap_map, printedItem, Spaced.render,
        Function.comp_def] using hspells

/-- A printed object spells its members, if each printed value does. -/
theorem spells_write_obj {members : List (Option String × Json)} (depth : Nat)
    (h : ∀ m ∈ members, Spells m.2 (write (depth + 1) m.2)) :
    Spells (obj members) (write depth (obj members)) := by
  have hkeys : ∀ m ∈ members.map (printedMember (depth + 1)), SpellsString m.key.value m.key.text :=
    List.forall_mem_map.2 fun m _ => spellsString_quote m.1
  have hvalues : ∀ m ∈ members.map (printedMember (depth + 1)), Spells m.value.value m.value.text :=
    List.forall_mem_map.2 h
  -- An empty object has no line of its own for a member.
  cases members with
  | nil => simpa [write, joined] using Spells.object hkeys hvalues isSpacing_nil
  | cons m members =>
      have hspells := Spells.object hkeys hvalues (isSpacing_newline depth)
      simpa [write, joined, writeMembers_eq_flatMap, List.flatMap_map, printedMember, Member.render,
        Member.entry, Spaced.render, Function.comp_def] using hspells

/-- What is printed at any level is a spelling of the document. -/
theorem spells_write {v : Json} (hv : v.NatOnly) (depth : Nat) : Spells v (write depth v) := by
  induction hv generalizing depth with
  | null => exact .nullWord
  | bool b =>
      cases b with
      | false => exact .falseWord
      | true => exact .trueWord
  | nat n =>
      have hnumber := Spells.number (isNumber_toDigits n)
      rw [ofLiteral_toDigits] at hnumber
      exact hnumber
  | str s => exact .string (spellsString_quote s)
  | arr hitems ih => exact spells_write_arr depth fun v hv => ih v hv _
  | obj hmembers ih => exact spells_write_obj depth fun m hm => ih m hm _

end Json
end GoSurvey
