import GoSurvey.Proofs.SourceNames
import GoSurvey.TypeShape

/-!
# Reading type texts back

The canonical text of a shape is put together from its names, and a reader of such texts takes plain
names only.

* `TypeShape.mem_canonical_iff`, `TypeShape.isPointer_iff_star` — what a canonical text is made of,
  and what it starts with;
* `TypeShape.parse_eq_ok_iff` — a text is read as a shape exactly if it is the canonical text of the
  shape and the names in the shape are plain;
* `TypeShape.IsTypeText`, `TypeShape.parse_inverts_canonical` — the form of the texts that are read,
  and that reading and writing are inverse to one another;
* `TypeShape.Named.isPlain_of_plain_text` — for a shape made of words of a source, whether its names
  are plain is a matter of the single characters.
-/

namespace GoSurvey

open Text

/-! ## Characters of words -/

/-- A character that starts a word is alphabetic, if it is alphanumeric at all. -/
theorem Text.isAlphabetic_of_isXidStart {c : Char} (hstart : isXidStart c = true)
    (hplain : isAlphanumeric c = true) : isAlphabetic c = true := by
  have hcases : (letters.contains c = true ∨ letterNumbers.contains c = true) ∨
      otherStarts.contains c = true := by
    simp only [isXidStart, Bool.and_eq_true, Bool.or_eq_true] at hstart
    exact hstart.1
  rcases hcases with (hletter | hnumber) | hother
  · simp [isAlphabetic, hletter]
  · simp [isAlphabetic, hnumber]
  · have hcode : c.toNat = 0x1885 ∨ c.toNat = 0x1886 ∨ c.toNat = 0x2118 ∨ c.toNat = 0x212E := by
      rcases (RangeTable.contains_iff (by decide) c).1 hother with ⟨range, hrange, hlow, hhigh⟩
      simp only [otherStarts, List.mem_cons, List.not_mem_nil, or_false] at hrange
      rcases hrange with rfl | rfl | rfl
      all_goals
        simp only at hlow hhigh
        omega
    rw [← Char.ofNat_toNat c] at hplain ⊢
    -- The first two are marks that count as letters; for the other two the premise fails.
    rcases hcode with hcode | hcode | hcode | hcode
    all_goals
      rw [hcode] at hplain ⊢
      revert hplain
      decide +kernel

/-- The star of a pointer is no character of a name, plain or not. -/
theorem Text.star_not_in_names :
    isAlphanumeric '*' = false ∧ Source.Token.continuesWord '*' = false := by
  decide

/-- The point after a package is no character of a name, plain or not. -/
theorem Text.point_not_in_names :
    isAlphanumeric '.' = false ∧ Source.Token.continuesWord '.' = false := by
  decide

namespace Source

/-- Every character of a name may stand inside of a word. -/
theorem IsName.continuesWord {name : String} (h : IsName name) {c : Char} (hc : c ∈ name.toList) :
    Token.continuesWord c = true := by
  rcases h with ⟨first, rest, hchars, hfirst, hrest⟩
  rw [hchars] at hc
  rcases List.mem_cons.1 hc with rfl | hc
  · have hstart : (c == '_') = true ∨ isXidStart c = true := by
      simpa [Token.startsWord] using hfirst
    rcases hstart with hstart | hstart
    · simp [Token.continuesWord, hstart]
    · simp [Token.continuesWord, isXidContinue, hstart]
  · exact hrest c hc

theorem IsName.ne_of_not_continuesWord {name : String} (h : IsName name) {c d : Char}
    (hc : c ∈ name.toList) (hd : Token.continuesWord d = false) : c ≠ d := by
  rintro rfl
  simp [h.continuesWord hc] at hd

end Source

/-! ## Reading texts -/

namespace TypeShape

def names : TypeShape → List String
  | ident name | pointerIdent name => [name]
  | qualified package name | pointerQualified package name => [package, name]
  | unsupported _ _ => []

def IsPlain (shape : TypeShape) : Prop :=
  ∀ name ∈ shape.names, isIdentifier name.toList = true

/-- Identifiers are made of letters, digits and underscores. -/
theorem plain_of_isIdentifier {s : List Char} (h : isIdentifier s = true) {c : Char} (hc : c ∈ s) :
    c = '_' ∨ isAlphanumeric c = true := by
  cases s with
  | nil => simp [isIdentifier] at h
  | cons first rest =>
      have hparts : (isAlphabetic first = true ∨ first = '_') ∧
          ∀ d ∈ rest, isAlphanumeric d = true ∨ d = '_' := by
        simpa [isIdentifier] using h
      rcases List.mem_cons.1 hc with rfl | hc
      · rcases hparts.1 with hfirst | hfirst
        · exact Or.inr (by simp [isAlphanumeric, hfirst])
        · exact Or.inl hfirst
      · exact (hparts.2 c hc).symm

theorem not_mem_of_isIdentifier {s : List Char} (h : isIdentifier s = true) {c : Char}
    (hc : isAlphanumeric c = false) (hline : c ≠ '_') : c ∉ s := by
  intro hmem
  rcases plain_of_isIdentifier h hmem with hsame | hplain
  · exact hline hsame
  · simp [hc] at hplain

/-- A canonical text is made of the names in the shape, a star before a pointer, and a point after a
package. -/
theorem mem_canonical_iff {shape : TypeShape} {text : String} (h : shape.canonical? = some text)
    (c : Char) :
    c ∈ text.toList ↔ (c = '*' ∧ shape.isPointer = true) ∨ (c = '.' ∧ 1 < shape.names.length) ∨
      ∃ name ∈ shape.names, c ∈ name.toList := by
  -- Each shape writes its names, with a star and a point where it has them.
  cases shape with
  | unsupported kind text => simp [canonical?] at h
  | ident name =>
      obtain rfl := Option.some.inj h
      simp [names, isPointer]
  | pointerIdent name =>
      obtain rfl := Option.some.inj h
      simp [names, isPointer]
  | qualified package name =>
      obtain rfl := Option.some.inj h
      simp [names, isPointer, or_left_comm]
  | pointerQualified package name =>
      obtain rfl := Option.some.inj h
      simp [names, isPointer, or_left_comm]

/-- Where no name in a shape has a star in it, the canonical text starts with one exactly if the
shape is a pointer. -/
theorem isPointer_iff_star {shape : TypeShape} {text : String}
    (hnames : ∀ name ∈ shape.names, '*' ∉ name.toList) (h : shape.canonical? = some text) :
    shape.isPointer = true ↔ ∃ rest, text.toList = '*' :: rest := by
  constructor
  · intro hpointer
    cases shape with
    | pointerIdent name =>
        obtain rfl := Option.some.inj h
        exact ⟨name.toList, by simp⟩
    | pointerQualified package name =>
        obtain rfl := Option.some.inj h
        exact ⟨package.toList ++ '.' :: name.toList, by simp⟩
    | _ => simp [isPointer] at hpointer
  · rintro ⟨rest, htext⟩
    have hstar : '*' ∈ text.toList := by simp [htext]
    rcases (mem_canonical_iff h '*').1 hstar with hpointer | hpoint | ⟨name, hname, hmem⟩
    · exact hpointer.2
    · simp at hpoint
    · exact absurd hmem (hnames name hname)

/-- The canonical text of a shape with plain names starts with a star exactly if it is a pointer. -/
theorem head?_canonical {shape : TypeShape} {text : String} (hplain : shape.IsPlain)
    (h : shape.canonical? = some text) :
    shape.isPointer = true ↔ ∃ rest, text.toList = '*' :: rest := by
  refine isPointer_iff_star ?_ h
  intro name hname
  exact not_mem_of_isIdentifier (hplain name hname) star_not_in_names.1 (by decide)

theorem parseName_name (pointer : Bool) {s : List Char} (h : isIdentifier s = true) :
    parseName pointer s =
      some ((if pointer then pointerIdent else ident) (String.ofList s)) := by
  have hcut : cut? '.' s = none := by
    cases hcut : cut? '.' s with
    | none => rfl
    | some parts =>
        rcases cut?_eq_some_iff.1 hcut with ⟨-, hs⟩
        have hpoint : '.' ∉ s := not_mem_of_isIdentifier h point_not_in_names.1 (by decide)
        exact absurd (by simp [hs]) hpoint
  simp [parseName, hcut, h]

/-- The text is cut at its only point. -/
theorem parseName_qualified (pointer : Bool) {package name : List Char}
    (hpackage : isIdentifier package = true) (hname : isIdentifier name = true) :
    parseName pointer (package ++ '.' :: name) =
      some ((if pointer then pointerQualified else qualified)
        (String.ofList package) (String.ofList name)) := by
  have hpoint : '.' ∉ package :=
    not_mem_of_isIdentifier hpackage point_not_in_names.1 (by decide)
  simp [parseName, cut?_eq_some_iff.2 ⟨hpoint, rfl⟩, hpackage, hname]

/-- A text without its star is read as the shape that it is the rest of the canonical text of. -/
theorem parseName_eq_some_iff {pointer : Bool} {s : List Char} {shape : TypeShape} :
    parseName pointer s = some shape ↔
      shape.IsPlain ∧ shape.isPointer = pointer ∧
        shape.canonical? = some (String.ofList ((if pointer then ['*'] else []) ++ s)) := by
  constructor
  · intro h
    unfold parseName at h
    -- The star is no part of what is read here, so that both values of the flag go alike.
    split at h
    next package name hcut =>
      rcases cut?_eq_some_iff.1 hcut with ⟨-, rfl⟩
      obtain ⟨⟨hpackage, hname⟩, rfl⟩ := by simpa using h
      cases pointer
      all_goals
        refine ⟨by simp [IsPlain, names, hpackage, hname], rfl, ?_⟩
        simp [canonical?, ← String.toList_inj]
    next hcut =>
      obtain ⟨hname, rfl⟩ := by simpa using h
      cases pointer
      all_goals
        refine ⟨by simp [IsPlain, names, hname], rfl, ?_⟩
        simp [canonical?]
  · rintro ⟨hplain, rfl, htext⟩
    cases shape with
    | ident name =>
        obtain rfl : name.toList = s := by simpa [canonical?, isPointer, ← String.toList_inj] using htext
        rw [parseName_name _ (hplain name (by simp [names]))]
        simp [isPointer]
    | pointerIdent name =>
        obtain rfl : name.toList = s := by simpa [canonical?, isPointer, ← String.toList_inj] using htext
        rw [parseName_name _ (hplain name (by simp [names]))]
        simp [isPointer]
    | qualified package name =>
        obtain rfl : package.toList ++ '.' :: name.toList = s := by
          simpa [canonical?, isPointer, ← String.toList_inj] using htext
        rw [parseName_qualified _ (hplain package (by simp [names])) (hplain name (by simp [names]))]
        simp [isPointer]
    | pointerQualified package name =>
        obtain rfl : package.toList ++ '.' :: name.toList = s := by
          simpa [canonical?, isPointer, ← String.toList_inj] using htext
        rw [parseName_qualified _ (hplain package (by simp [names])) (hplain name (by simp [names]))]
        simp [isPointer]
    | unsupported kind text => simp [canonical?] at htext

/-- A text is read without its star, or else refused as a whole. -/
theorem parse_cases (text : String) :
    ∃ (pointer : Bool) (s : List Char),
      text = String.ofList ((if pointer then ['*'] else []) ++ s) ∧
        (pointer = true ↔ ∃ rest, text.toList = '*' :: rest) ∧
        parse text = (parseName pointer s).elim (.error ⟨"text", text⟩) .ok := by
  cases hstar : dropPrefix? ['*'] text.toList with
  | some rest =>
      have htext : text.toList = '*' :: rest := dropPrefix?_eq_some_iff.1 hstar
      refine ⟨true, rest, by simp [← htext], by simp [htext], ?_⟩
      cases hname : parseName true rest <;> simp [parse, hstar, hname]
  | none =>
      refine ⟨false, text.toList, by simp, ?_, ?_⟩
      · simp only [Bool.false_eq_true, false_iff]
        rintro ⟨rest, htext⟩
        have hsome : dropPrefix? ['*'] text.toList = some rest := dropPrefix?_eq_some_iff.2 htext
        simp [hstar] at hsome
      · cases hname : parseName false text.toList <;> simp [parse, hstar, hname]

/-- A text is read as a shape exactly if it is the canonical text of the shape and the names in the
shape are plain. -/
theorem parse_eq_ok_iff {text : String} {shape : TypeShape} :
    parse text = .ok shape ↔ shape.IsPlain ∧ shape.canonical? = some text := by
  rcases parse_cases text with ⟨pointer, s, htext, hpointer, hparse⟩
  have hok : parse text = .ok shape ↔ parseName pointer s = some shape := by
    rw [hparse]
    cases parseName pointer s <;> simp
  rw [hok, parseName_eq_some_iff, ← htext]
  constructor
  · exact fun h => ⟨h.1, h.2.2⟩
  · intro h
    refine ⟨h.1, ?_, h.2⟩
    rw [Bool.eq_iff_iff, hpointer]
    exact head?_canonical h.1 h.2

/-- A text that is refused is reported as a whole. -/
theorem parse_eq_error {text : String} (h : ∀ shape, parse text ≠ .ok shape) :
    parse text = .error ⟨"text", text⟩ := by
  rcases parse_cases text with ⟨pointer, s, -, -, hparse⟩
  cases hname : parseName pointer s with
  | none => simpa [hname] using hparse
  | some shape => exact absurd (by simpa [hname] using hparse) (h shape)

/-! ## The form of type texts -/

/-- The texts of types: at most one star, then a plain name, or a plain package and a plain name with
a point between them. -/
inductive IsTypeText : String → Prop where
  | name {star name : String} (hstar : star = "" ∨ star = "*")
      (hname : isIdentifier name.toList = true) : IsTypeText (star ++ name)
  | qualified {star package name : String} (hstar : star = "" ∨ star = "*")
      (hpackage : isIdentifier package.toList = true) (hname : isIdentifier name.toList = true) :
      IsTypeText (star ++ package ++ "." ++ name)

/-- These are the canonical texts of the shapes with plain names. -/
theorem isTypeText_iff {text : String} :
    IsTypeText text ↔ ∃ shape, IsPlain shape ∧ shape.canonical? = some text := by
  constructor
  · intro h
    cases h with
    | @name star name hstar hname =>
        rcases hstar with rfl | rfl
        · exact ⟨ident name, by simpa [IsPlain, names] using hname, by simp [canonical?]⟩
        · exact ⟨pointerIdent name, by simpa [IsPlain, names] using hname, rfl⟩
    | @qualified star package name hstar hpackage hname =>
        have hplain : ∀ word ∈ [package, name], isIdentifier word.toList = true := by
          simp [hpackage, hname]
        rcases hstar with rfl | rfl
        · exact ⟨TypeShape.qualified package name, hplain, by simp [canonical?]⟩
        · exact ⟨pointerQualified package name, hplain, rfl⟩
  · rintro ⟨shape, hplain, htext⟩
    cases shape with
    | ident name =>
        obtain rfl := Option.some.inj htext
        simpa using IsTypeText.name (Or.inl rfl) (hplain name (by simp [names]))
    | pointerIdent name =>
        obtain rfl := Option.some.inj htext
        exact IsTypeText.name (Or.inr rfl) (hplain name (by simp [names]))
    | qualified package name =>
        obtain rfl := Option.some.inj htext
        simpa using IsTypeText.qualified (Or.inl rfl) (hplain package (by simp [names]))
          (hplain name (by simp [names]))
    | pointerQualified package name =>
        obtain rfl := Option.some.inj htext
        exact IsTypeText.qualified (Or.inr rfl) (hplain package (by simp [names]))
          (hplain name (by simp [names]))
    | unsupported kind text => simp [canonical?] at htext

theorem display_eq_of_canonical {shape : TypeShape} {text : String}
    (h : shape.canonical? = some text) : shape.display = text := by
  cases shape <;> simp_all [canonical?, display]

/-- A supported shape resolves to its text and to whether it is a pointer. -/
theorem resolve_eq_of_canonical {shape : TypeShape} {text : String}
    (h : shape.canonical? = some text) : shape.resolve = .ok ⟨text, shape.isPointer⟩ := by
  cases shape <;> simp_all [canonical?, resolve]

theorem exists_canonical {shape : TypeShape} (h : ∀ kind text, shape ≠ unsupported kind text) :
    ∃ text, shape.canonical? = some text := by
  cases shape with
  | unsupported kind text => exact absurd rfl (h kind text)
  | _ => exact ⟨_, rfl⟩

/-- Reading and writing of type texts are inverse to one another. A text is read exactly if it has
the form of type texts; it then is the text of the shape that is read, in each of the ways to write
the shape, and the shape is a pointer exactly if the text starts with a star. Every other text is
refused and reported as a whole. The other way round, every supported shape with plain names is what
its own text is read as. -/
theorem parse_inverts_canonical :
    (∀ text : String,
      ((∃ shape, parse text = .ok shape) ↔ IsTypeText text) ∧
      (∀ shape, parse text = .ok shape →
        shape.canonical? = some text ∧ shape.display = text ∧
        ∃ pointer, shape.resolve = .ok ⟨text, pointer⟩ ∧
          (pointer = true ↔ ∃ rest, text.toList = '*' :: rest)) ∧
      (¬ IsTypeText text → parse text = .error ⟨"text", text⟩)) ∧
    ∀ shape : TypeShape, (∀ kind text, shape ≠ unsupported kind text) →
      (∀ name ∈ shape.names, isIdentifier name.toList = true) →
      ∃ text, shape.canonical? = some text ∧ parse text = .ok shape := by
  have hread : ∀ text, (∃ shape, parse text = .ok shape) ↔ IsTypeText text := by
    intro text
    simp only [parse_eq_ok_iff, isTypeText_iff]
  refine ⟨fun text => ⟨hread text, ?_, ?_⟩, ?_⟩
  · intro shape h
    rcases parse_eq_ok_iff.1 h with ⟨hplain, htext⟩
    exact ⟨htext, display_eq_of_canonical htext, shape.isPointer, resolve_eq_of_canonical htext,
      head?_canonical hplain htext⟩
  · intro hnot
    refine parse_eq_error ?_
    intro shape h
    exact hnot ((hread text).1 ⟨shape, h⟩)
  · intro shape hsupported hplain
    rcases exists_canonical hsupported with ⟨text, htext⟩
    exact ⟨text, htext, parse_eq_ok_iff.2 ⟨hplain, htext⟩⟩

/-! ## Texts made of words -/

def Named (shape : TypeShape) : Prop :=
  ∀ name ∈ shape.names, Source.IsName name

/-- A word is plain if all of its characters are. -/
theorem isIdentifier_of_isName {name : String} (h : Source.IsName name)
    (hplain : ∀ c ∈ name.toList, c = '_' ∨ isAlphanumeric c = true) :
    isIdentifier name.toList = true := by
  rcases h with ⟨first, rest, hchars, hfirst, -⟩
  rw [hchars] at hplain ⊢
  rcases List.forall_mem_cons.1 hplain with ⟨hplainFirst, hplainRest⟩
  have hstart : isAlphabetic first = true ∨ first = '_' := by
    rcases hplainFirst with hline | hplainFirst
    · exact Or.inr hline
    · have hcases : first = '_' ∨ isXidStart first = true := by
        simpa [Source.Token.startsWord] using hfirst
      rcases hcases with hline | hxid
      · exact Or.inr hline
      · exact Or.inl (isAlphabetic_of_isXidStart hxid hplainFirst)
  have hall : ∀ d ∈ rest, isAlphanumeric d = true ∨ d = '_' := fun d hd => (hplainRest d hd).symm
  simpa [isIdentifier] using ⟨hstart, hall⟩

/-- All characters in the text of a shape with plain names are plain, a star and a point apart. -/
theorem IsPlain.plain_text {shape : TypeShape} {text : String} (hplain : shape.IsPlain)
    (h : shape.canonical? = some text) {c : Char} (hc : c ∈ text.toList) :
    c = '*' ∨ c = '.' ∨ c = '_' ∨ isAlphanumeric c = true := by
  rcases (mem_canonical_iff h c).1 hc with ⟨hstar, -⟩ | ⟨hpoint, -⟩ | ⟨name, hname, hmem⟩
  · exact Or.inl hstar
  · exact Or.inr (Or.inl hpoint)
  · exact Or.inr (Or.inr (plain_of_isIdentifier (hplain name hname) hmem))

/-- For a shape made of words the converse holds as well: no word has a star or a point in it. -/
theorem Named.isPlain_of_plain_text {shape : TypeShape} {text : String} (hnamed : shape.Named)
    (h : shape.canonical? = some text)
    (hchars : ∀ c ∈ text.toList, c = '*' ∨ c = '.' ∨ c = '_' ∨ isAlphanumeric c = true) :
    shape.IsPlain := by
  intro name hname
  have hword := hnamed name hname
  refine isIdentifier_of_isName hword ?_
  intro c hc
  have hstar : c ≠ '*' := hword.ne_of_not_continuesWord hc star_not_in_names.2
  have hpoint : c ≠ '.' := hword.ne_of_not_continuesWord hc point_not_in_names.2
  have htext : c ∈ text.toList := (mem_canonical_iff h c).2 (Or.inr (Or.inr ⟨name, hname, hc⟩))
  exact ((hchars c htext).resolve_left hstar).resolve_left hpoint

/-- A word has no star in it, so that the text of a shape made of words starts with a star exactly
if the shape is a pointer. -/
theorem Named.isPointer_iff_star {shape : TypeShape} {text : String} (hnamed : shape.Named)
    (h : shape.canonical? = some text) :
    shape.isPointer = true ↔ ∃ rest, text.toList = '*' :: rest := by
  refine TypeShape.isPointer_iff_star ?_ h
  intro name hname hmem
  exact (hnamed name hname).ne_of_not_continuesWord hmem star_not_in_names.2 rfl

/-- A character that is not plain in the text of a shape made of words goes on with a word. -/
theorem Named.isXidContinue_of_mem {shape : TypeShape} {text : String} (hnamed : shape.Named)
    (h : shape.canonical? = some text) {c : Char} (hc : c ∈ text.toList)
    (hodd : ¬ (c = '*' ∨ c = '.' ∨ c = '_' ∨ isAlphanumeric c = true)) :
    isXidContinue c = true := by
  simp only [not_or] at hodd
  rcases (mem_canonical_iff h c).1 hc with ⟨hstar, -⟩ | ⟨hpoint, -⟩ | ⟨name, hname, hmem⟩
  · exact absurd hstar hodd.1
  · exact absurd hpoint hodd.2.1
  · have hcases : c = '_' ∨ isXidContinue c = true := by
      simpa [Source.Token.continuesWord] using (hnamed name hname).continuesWord hmem
    exact hcases.resolve_left hodd.2.2.1

end TypeShape
end GoSurvey
