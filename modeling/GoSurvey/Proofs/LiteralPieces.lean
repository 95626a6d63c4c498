import Mathlib.Data.Nat.Digits.Defs
import Mathlib.Data.Nat.Digits.Lemmas
import Mathlib.Tactic.IntervalCases
import GoSurvey.Proofs.Outcome
import GoSurvey.Tag.Literal

/-!
# The language of double-quoted literals

The text between double quotes is a row of pieces: characters that stand for themselves, and
escapes. This file gives the grammar of pieces and shows that literals are read by it.

* `Tag.LiteralPiece` — one piece, and the bytes that it stands for;
* `Tag.Spelling` — a text cut into pieces;
* `Tag.readEscape_eq_ok_iff` — reading an escape is cutting one piece off;
* `Tag.Spelling.unique` — a text is cut into pieces in at most one way;
* `Tag.payload_eq_ok_iff_spelling` — a literal is accepted exactly if it is made of pieces whose
  bytes are a text, and the arithmetic on the way stays within words of 32 bits.
-/

namespace GoSurvey
namespace Tag

open Text Outcome

/-! ## The grammar -/

/-- Whether `c` is the digit of value `d` in a base of at most sixteen; letters count in both
cases. -/
def IsDigitOf (base : Nat) (c : Char) (d : Nat) : Prop :=
  d < base ∧ (c = Nat.digitChar d ∨ c = (Nat.digitChar d).toUpper)

/-- Whether a text consists of digits that spell `n`, the highest first. -/
def IsNumeral (base : Nat) (text : List Char) (n : Nat) : Prop :=
  ∃ ds, List.Forall₂ (IsDigitOf base) text ds ∧ Nat.ofDigits base ds.reverse = n

def letterEscapes : List (Char × UInt8) :=
  [('a', 0x07), ('b', 0x08), ('f', 0x0C), ('n', 0x0A), ('r', 0x0D), ('t', 0x09), ('v', 0x0B),
   ('\\', 0x5C), ('"', 0x22)]

/-- One piece of a double-quoted text, and the bytes that it stands for. -/
inductive LiteralPiece : List Char → List UInt8 → Prop where
  | plain {c : Char} (hc : c ≠ '\\') : LiteralPiece [c] (String.utf8EncodeChar c)
  | letter {c : Char} {b : UInt8} (hb : (c, b) ∈ letterEscapes) : LiteralPiece ['\\', c] [b]
  | hexByte {digits : List Char} {b : UInt8} (hlength : digits.length = 2)
      (hb : IsNumeral 16 digits b.toNat) : LiteralPiece ('\\' :: 'x' :: digits) [b]
  | octalByte {digits : List Char} {b : UInt8} (hlength : digits.length = 3)
      (hb : IsNumeral 8 digits b.toNat) : LiteralPiece ('\\' :: digits) [b]
  | shortScalar {digits : List Char} {c : Char} (hlength : digits.length = 4)
      (hc : IsNumeral 16 digits c.toNat) :
      LiteralPiece ('\\' :: 'u' :: digits) (String.utf8EncodeChar c)
  | longScalar {digits : List Char} {c : Char} (hlength : digits.length = 8)
      (hc : IsNumeral 16 digits c.toNat) :
      LiteralPiece ('\\' :: 'U' :: digits) (String.utf8EncodeChar c)

/-- A text cut into pieces, each with its bytes, and the bytes of them all. -/
structure Spelling (pieces : List (List Char × List UInt8)) (text : List Char)
    (bytes : List UInt8) : Prop where
  isPiece : ∀ p ∈ pieces, LiteralPiece p.1 p.2
  text_eq : pieces.flatMap Prod.fst = text
  bytes_eq : pieces.flatMap Prod.snd = bytes

/-! ## Digits -/

/-- The three ranges of characters the reader tests are the digits `Nat.digitChar` writes, in both
cases. -/
theorem digitValue?_eq_some_iff {base : Nat} (hbase : base ≤ 16) {c : Char} {d : Nat} :
    digitValue? base c = some d ↔ IsDigitOf base c d := by
  unfold digitValue? IsDigitOf
  simp only [Option.filter_eq_some_iff, decide_eq_true_eq]
  rw [and_comm]
  refine and_congr_right ?_
  intro hd
  constructor
  · intro h
    obtain ⟨n, hn⟩ : ∃ n, c.toNat = n := ⟨_, rfl⟩
    have hc : c = Char.ofNat n := by rw [← hn, Char.ofNat_toNat]
    -- Each of the three ranges is short enough to look at every character in it.
    split at h
    next hrange =>
      have hlow : 48 ≤ n := hn ▸ hrange.1
      have hhigh : n ≤ 57 := hn ▸ hrange.2
      obtain rfl : n - 48 = d := by simpa [hn] using h
      subst hc
      interval_cases n <;> decide
    next =>
      split at h
      next hrange =>
        have hlow : 97 ≤ n := hn ▸ hrange.1
        have hhigh : n ≤ 102 := hn ▸ hrange.2
        obtain rfl : n - 97 + 10 = d := by simpa [hn] using h
        subst hc
        interval_cases n <;> decide
      next =>
        split at h
        next hrange =>
          have hlow : 65 ≤ n := hn ▸ hrange.1
          have hhigh : n ≤ 70 := hn ▸ hrange.2
          obtain rfl : n - 65 + 10 = d := by simpa [hn] using h
          subst hc
          interval_cases n <;> decide
        next => simp at h
  · intro h
    have hd' : d < 16 := by omega
    interval_cases d <;> rcases h with rfl | rfl <;> decide

theorem isNumeral_nil {base n : Nat} : IsNumeral base [] n ↔ n = 0 := by
  simp [IsNumeral, eq_comm]

/-- A numeral is its first digit at the highest place before a shorter numeral. -/
theorem isNumeral_cons {base n : Nat} {c : Char} {text : List Char} :
    IsNumeral base (c :: text) n ↔
      ∃ d m, IsDigitOf base c d ∧ IsNumeral base text m ∧ d * base ^ text.length + m = n := by
  constructor
  · rintro ⟨ds, hds, rfl⟩
    rcases List.forall₂_cons_left_iff.1 hds with ⟨d, later, hd, hlater, rfl⟩
    refine ⟨d, _, hd, ⟨later, hlater, rfl⟩, ?_⟩
    rw [Nat.ofDigits_reverse_cons, hlater.length_eq]
    ring
  · rintro ⟨d, m, hd, ⟨later, hlater, rfl⟩, rfl⟩
    refine ⟨d :: later, List.Forall₂.cons hd hlater, ?_⟩
    rw [Nat.ofDigits_reverse_cons, hlater.length_eq]
    ring

/-- A numeral of `k` digits stays below `base ^ k`. -/
theorem IsNumeral.lt {base n : Nat} {text : List Char} (hbase : 1 < base)
    (h : IsNumeral base text n) : n < base ^ text.length := by
  rcases h with ⟨ds, hds, rfl⟩
  have hdigits : ∀ d ∈ ds, d < base := by
    induction hds with
    | nil => simp
    | cons hd _ ih => exact List.forall_mem_cons.2 ⟨hd.1, ih⟩
  have hlt := Nat.ofDigits_lt_base_pow_length hbase fun d hd => hdigits d (List.mem_reverse.1 hd)
  rwa [List.length_reverse, ← hds.length_eq] at hlt

/-- Reading digits on from a value: the digits that are read spell what is added to it. -/
theorem readDigits_eq_some_iff {base : Nat} (hbase : base ≤ 16) {count value n : Nat}
    {s rest : List Char} :
    readDigits base count value s = some (n, rest) ↔
      ∃ text m, text.length = count ∧ IsNumeral base text m ∧ s = text ++ rest ∧
        value * base ^ count + m = n := by
  -- The value read so far moves up by one place at each digit, hence the generalization over it.
  induction count generalizing value s with
  | zero =>
      simp only [readDigits, Option.some.injEq, Prod.mk.injEq, List.length_eq_zero_iff]
      constructor
      · rintro ⟨rfl, rfl⟩
        exact ⟨[], 0, rfl, isNumeral_nil.2 rfl, rfl, by simp⟩
      · rintro ⟨text, m, rfl, hm, rfl, rfl⟩
        simp [isNumeral_nil.1 hm]
  | succ count ih =>
      cases s with
      | nil =>
          simp only [readDigits, reduceCtorEq, false_iff]
          rintro ⟨text, m, hlength, -, hs, -⟩
          have hnil : text = [] := by simpa using (List.append_eq_nil_iff.1 hs.symm).1
          simp [hnil] at hlength
      | cons c s =>
          have hstep : readDigits base (count + 1) value (c :: s) = some (n, rest) ↔
              ∃ d, IsDigitOf base c d ∧
                readDigits base count (value * base + d) s = some (n, rest) := by
            simp only [← digitValue?_eq_some_iff hbase, readDigits]
            cases digitValue? base c with
            | none => simp
            | some d => simp
          rw [hstep]
          constructor
          · rintro ⟨d, hd, hread⟩
            rcases ih.1 hread with ⟨text, m, rfl, hm, rfl, rfl⟩
            refine ⟨c :: text, _, rfl, isNumeral_cons.2 ⟨d, m, hd, hm, rfl⟩, rfl, ?_⟩
            rw [Nat.pow_succ]
            ring
          · rintro ⟨text, m, hlength, hm, hs, rfl⟩
            cases text with
            | nil => simp at hlength
            | cons c' text =>
                obtain ⟨rfl, rfl⟩ := List.cons.inj hs
                obtain rfl : text.length = count := by simpa using hlength
                rcases isNumeral_cons.1 hm with ⟨d, m', hd, hm', rfl⟩
                refine ⟨d, hd, ih.2 ⟨text, m', rfl, hm', rfl, ?_⟩⟩
                rw [Nat.pow_succ]
                ring

/-- Two hexadecimal digits spell a byte. -/
theorem toNat_toUInt8_of_readDigits {n : Nat} {s rest : List Char}
    (h : readDigits 16 2 0 s = some (n, rest)) : n.toUInt8.toNat = n := by
  rcases (readDigits_eq_some_iff (by decide)).1 h with ⟨text, m, hlength, hm, -, hsum⟩
  obtain rfl : m = n := by simpa using hsum
  have hlt : m < 16 ^ 2 := hlength ▸ hm.lt (by decide)
  exact Nat.mod_eq_of_lt hlt

/-! ## One escape -/

theorem simpleEscape?_eq_some_iff {c : Char} {b : UInt8} :
    simpleEscape? c = some b ↔ (c, b) ∈ letterEscapes := by
  constructor
  · intro h
    unfold simpleEscape? at h
    split at h <;> simp_all [letterEscapes]
  · intro h
    simp only [letterEscapes, List.mem_cons, Prod.mk.injEq, List.not_mem_nil, or_false] at h
    rcases h with ⟨rfl, rfl⟩ | ⟨rfl, rfl⟩ | ⟨rfl, rfl⟩ | ⟨rfl, rfl⟩ | ⟨rfl, rfl⟩ | ⟨rfl, rfl⟩ |
      ⟨rfl, rfl⟩ | ⟨rfl, rfl⟩ | ⟨rfl, rfl⟩ <;> rfl

/-- Exactly the scalar values have bytes; a surrogate and a number past `10FFFF` have none. -/
theorem scalarBytes?_eq_some_iff {n : Nat} {bytes : List UInt8} :
    scalarBytes? n = some bytes ↔ ∃ c : Char, c.toNat = n ∧ String.utf8EncodeChar c = bytes := by
  unfold scalarBytes?
  constructor
  · intro h
    split at h
    next hvalid =>
      have hchar : (Char.ofNat n).toNat = n := by
        rw [Char.ofNat, dif_pos hvalid]
        rfl
      exact ⟨Char.ofNat n, hchar, by simpa using h⟩
    next => simp at h
  · rintro ⟨c, rfl, rfl⟩
    have hvalid : c.toNat.isValidChar := c.valid
    simp [hvalid]

theorem readScalar_eq_ok_iff {width : Nat} {s rest : List Char} {bytes : List UInt8} :
    readScalar width s = .ok (bytes, rest) ↔
      ∃ digits, ∃ c : Char, digits.length = width ∧ IsNumeral 16 digits c.toNat ∧
        s = digits ++ rest ∧ String.utf8EncodeChar c = bytes := by
  unfold readScalar
  constructor
  · intro h
    split at h
    next => simp at h
    next n rest' hread =>
      split at h
      next => simp at h
      next bytes' hbytes =>
        obtain ⟨rfl, rfl⟩ : bytes' = bytes ∧ rest' = rest := by simpa using h
        rcases scalarBytes?_eq_some_iff.1 hbytes with ⟨c, rfl, hc⟩
        rcases (readDigits_eq_some_iff (by decide)).1 hread with ⟨digits, m, hlength, hm, hs, hsum⟩
        obtain rfl : m = c.toNat := by simpa using hsum
        exact ⟨digits, c, hlength, hm, hs, hc⟩
  · rintro ⟨digits, c, rfl, hc, rfl, rfl⟩
    have hread : readDigits 16 digits.length 0 (digits ++ rest) = some (c.toNat, rest) :=
      (readDigits_eq_some_iff (by decide)).2 ⟨digits, c.toNat, rfl, hc, rfl, by simp⟩
    have hbytes : scalarBytes? c.toNat = some (String.utf8EncodeChar c) :=
      scalarBytes?_eq_some_iff.2 ⟨c, rfl, rfl⟩
    simp [hread, hbytes]

/-- An octal digit starts no other escape. -/
theorem octalDigit_starts_octal {c : Char} {d : Nat} (h : IsDigitOf 8 c d) :
    simpleEscape? c = none ∧ c ≠ 'x' ∧ c ≠ 'u' ∧ c ≠ 'U' := by
  rcases h with ⟨hd, hc⟩
  interval_cases d <;> rcases hc with rfl | rfl <;> decide

/-- The escape of a piece reads back as its bytes, whatever follows it. -/
theorem readEscape_append {text : List Char} {bytes : List UInt8}
    (h : LiteralPiece ('\\' :: text) bytes) (rest : List Char) :
    readEscape (text ++ rest) = .ok (bytes, rest) := by
  generalize hwhole : '\\' :: text = whole at h
  cases h with
  | plain hc =>
      exact absurd (List.cons.inj hwhole).1.symm hc
  | letter hb =>
      obtain ⟨-, rfl⟩ := List.cons.inj hwhole
      simp [readEscape, simpleEscape?_eq_some_iff.2 hb]
  | @hexByte digits b hlength hb =>
      obtain ⟨-, rfl⟩ := List.cons.inj hwhole
      have hread : readDigits 16 2 0 (digits ++ rest) = some (b.toNat, rest) :=
        (readDigits_eq_some_iff (by decide)).2 ⟨digits, b.toNat, hlength, hb, rfl, by simp⟩
      simp [readEscape, simpleEscape?, hread]
  -- The first octal digit also selects the branch: it is none of the letters tested before it.
  | @octalByte digits b hlength hb =>
      obtain ⟨-, rfl⟩ := List.cons.inj hwhole
      cases text with
      | nil => simp at hlength
      | cons c later =>
          rcases isNumeral_cons.1 hb with ⟨d, m, hd, hm, hsum⟩
          have hlater : later.length = 2 := by simpa using hlength
          have hread : readDigits 8 2 d (later ++ rest) = some (b.toNat, rest) :=
            (readDigits_eq_some_iff (by decide)).2
              ⟨later, m, hlater, hm, rfl, by rw [← hsum, hlater]⟩
          have hbyte : b.toNat ≤ 255 := by
            have := b.toNat_lt
            omega
          rcases octalDigit_starts_octal hd with ⟨hsimple, hx, hu, hU⟩
          simp [readEscape, hsimple, hx, hu, hU, (digitValue?_eq_some_iff (by decide)).2 hd, hread,
            hbyte]
  | @shortScalar digits c hlength hc =>
      obtain ⟨-, rfl⟩ := List.cons.inj hwhole
      have hread : readScalar 4 (digits ++ rest) = .ok (String.utf8EncodeChar c, rest) :=
        readScalar_eq_ok_iff.2 ⟨digits, c, hlength, hc, rfl, rfl⟩
      simpa [readEscape, simpleEscape?] using hread
  | @longScalar digits c hlength hc =>
      obtain ⟨-, rfl⟩ := List.cons.inj hwhole
      have hread : readScalar 8 (digits ++ rest) = .ok (String.utf8EncodeChar c, rest) :=
        readScalar_eq_ok_iff.2 ⟨digits, c, hlength, hc, rfl, rfl⟩
      simpa [readEscape, simpleEscape?] using hread

/-- Two hexadecimal digits always fit one byte. -/
theorem hexByte_of_readDigits {n : Nat} {s rest : List Char}
    (h : readDigits 16 2 0 s = some (n, rest)) :
    ∃ text, LiteralPiece ('\\' :: 'x' :: text) [n.toUInt8] ∧ s = text ++ rest := by
  have hbyte := toNat_toUInt8_of_readDigits h
  rcases (readDigits_eq_some_iff (by decide)).1 h with ⟨text, m, hlength, hm, hs, hsum⟩
  obtain rfl : m = n := by simpa using hsum
  exact ⟨text, .hexByte hlength (hbyte.symm ▸ hm), hs⟩

/-- Three octal digits are a piece once the range check has let them through. -/
theorem octalByte_of_readDigits {c : Char} {d n : Nat} {s rest : List Char}
    (hd : digitValue? 8 c = some d) (h : readDigits 8 2 d s = some (n, rest)) (hrange : n ≤ 255) :
    ∃ text, LiteralPiece ('\\' :: c :: text) [n.toUInt8] ∧ s = text ++ rest := by
  have hbyte : n.toUInt8.toNat = n := Nat.mod_eq_of_lt (Nat.lt_succ_of_le hrange)
  rcases (readDigits_eq_some_iff (by decide)).1 h with ⟨text, m, hlength, hm, hs, hsum⟩
  have hdigit : IsDigitOf 8 c d := (digitValue?_eq_some_iff (by decide)).1 hd
  have hn : IsNumeral 8 (c :: text) n :=
    isNumeral_cons.2 ⟨d, m, hdigit, hm, by rw [hlength, hsum]⟩
  exact ⟨text, .octalByte (by simp [hlength]) (hbyte.symm ▸ hn), hs⟩

/-- Reading an escape cuts one piece off. -/
theorem readEscape_eq_ok_iff {s rest : List Char} {bytes : List UInt8} :
    readEscape s = .ok (bytes, rest) ↔
      ∃ text, LiteralPiece ('\\' :: text) bytes ∧ s = text ++ rest := by
  constructor
  · intro h
    cases s with
    | nil => simp [readEscape] at h
    | cons c s =>
        -- It is enough to find the piece after its first character.
        suffices hpiece : ∃ text, LiteralPiece ('\\' :: c :: text) bytes ∧ s = text ++ rest by
          rcases hpiece with ⟨text, hpiece, rfl⟩
          exact ⟨c :: text, hpiece, rfl⟩
        simp only [readEscape] at h
        split at h
        next byte hsimple =>
          obtain ⟨rfl, rfl⟩ : [byte] = bytes ∧ s = rest := by simpa using h
          exact ⟨[], .letter (simpleEscape?_eq_some_iff.1 hsimple), rfl⟩
        next =>
          split_ifs at h with hx hu hU
          · subst hx
            split at h
            next => simp at h
            next n rest' hread =>
              obtain ⟨rfl, rfl⟩ : [n.toUInt8] = bytes ∧ rest' = rest := by simpa using h
              exact hexByte_of_readDigits hread
          · subst hu
            rcases readScalar_eq_ok_iff.1 h with ⟨text, scalar, hlength, hscalar, hs, rfl⟩
            exact ⟨text, .shortScalar hlength hscalar, hs⟩
          · subst hU
            rcases readScalar_eq_ok_iff.1 h with ⟨text, scalar, hlength, hscalar, hs, rfl⟩
            exact ⟨text, .longScalar hlength hscalar, hs⟩
          · split at h
            next => simp at h
            next d hd =>
              split at h
              next => simp at h
              next n rest' hread =>
                split_ifs at h with hrange
                obtain ⟨rfl, rfl⟩ : [n.toUInt8] = bytes ∧ rest' = rest := by simpa using h
                exact octalByte_of_readDigits hd hread hrange
  · rintro ⟨text, hpiece, rfl⟩
    exact readEscape_append hpiece rest

/-! ## Whole texts -/

theorem Spelling.nil : Spelling [] [] [] :=
  ⟨by simp, rfl, rfl⟩

theorem Spelling.cons {text later : List Char} {bytes more : List UInt8}
    {pieces : List (List Char × List UInt8)} (hpiece : LiteralPiece text bytes)
    (hlater : Spelling pieces later more) :
    Spelling ((text, bytes) :: pieces) (text ++ later) (bytes ++ more) where
  isPiece := List.forall_mem_cons.2 ⟨hpiece, hlater.isPiece⟩
  text_eq := by rw [List.flatMap_cons, hlater.text_eq]
  bytes_eq := by rw [List.flatMap_cons, hlater.bytes_eq]

/-- A piece is a plain character, or starts with a backslash. -/
theorem LiteralPiece.plain_or_escape {text : List Char} {bytes : List UInt8}
    (h : LiteralPiece text bytes) :
    (∃ c, c ≠ '\\' ∧ text = [c] ∧ bytes = String.utf8EncodeChar c) ∨
      ∃ rest, text = '\\' :: rest := by
  cases h with
  | plain hc => exact Or.inl ⟨_, hc, rfl, rfl⟩
  | letter => exact Or.inr ⟨_, rfl⟩
  | hexByte => exact Or.inr ⟨_, rfl⟩
  | octalByte => exact Or.inr ⟨_, rfl⟩
  | shortScalar => exact Or.inr ⟨_, rfl⟩
  | longScalar => exact Or.inr ⟨_, rfl⟩

/-- No piece is empty, so a text is cut into finitely many of them. -/
theorem LiteralPiece.ne_nil {text : List Char} {bytes : List UInt8} (h : LiteralPiece text bytes) :
    text ≠ [] := by
  rcases h.plain_or_escape with ⟨c, -, rfl, -⟩ | ⟨rest, rfl⟩
  · simp
  · simp

/-- No piece is the start of another: where one ends is known once it has been read. -/
theorem LiteralPiece.append_inj {text text' rest rest' : List Char} {bytes bytes' : List UInt8}
    (h : LiteralPiece text bytes) (h' : LiteralPiece text' bytes')
    (heq : text ++ rest = text' ++ rest') : text = text' ∧ bytes = bytes' ∧ rest = rest' := by
  rcases h.plain_or_escape with ⟨c, hc, rfl, rfl⟩ | ⟨inner, rfl⟩
  · rcases h'.plain_or_escape with ⟨c', hc', rfl, rfl⟩ | ⟨inner', rfl⟩
    · obtain ⟨rfl, rfl⟩ := List.cons.inj heq
      exact ⟨rfl, rfl, rfl⟩
    · exact absurd (List.cons.inj heq).1 hc
  · rcases h'.plain_or_escape with ⟨c', hc', rfl, rfl⟩ | ⟨inner', rfl⟩
    · exact absurd (List.cons.inj heq).1.symm hc'
    · have hinner : inner ++ rest = inner' ++ rest' := (List.cons.inj heq).2
      -- Two escapes at the front of one text are both what the reader finds there.
      have hread := readEscape_append h rest
      have hread' := readEscape_append h' rest'
      rw [hinner, hread'] at hread
      obtain ⟨rfl, rfl⟩ : bytes' = bytes ∧ rest' = rest := by simpa using hread
      exact ⟨by simpa using hinner, rfl, rfl⟩

/-- A text is cut into pieces in at most one way. -/
theorem Spelling.unique {pieces pieces' : List (List Char × List UInt8)} {text : List Char}
    {bytes bytes' : List UInt8} (h : Spelling pieces text bytes)
    (h' : Spelling pieces' text bytes') : pieces = pieces' := by
  have heq := h.text_eq.trans h'.text_eq.symm
  have hpieces := h.isPiece
  have hpieces' := h'.isPiece
  clear h h'
  induction pieces generalizing pieces' with
  | nil =>
      cases pieces' with
      | nil => rfl
      | cons p' later' =>
          have hnil : p'.1 = [] := by simpa using (List.append_eq_nil_iff.1 heq.symm).1
          exact absurd hnil (hpieces' p' List.mem_cons_self).ne_nil
  | cons p later ih =>
      rcases List.forall_mem_cons.1 hpieces with ⟨hp, hlater⟩
      cases pieces' with
      | nil =>
          have hnil : p.1 = [] := by simpa using (List.append_eq_nil_iff.1 heq).1
          exact absurd hnil hp.ne_nil
      | cons p' later' =>
          rcases List.forall_mem_cons.1 hpieces' with ⟨hp', hlater'⟩
          rcases hp.append_inj hp' heq with ⟨htext, hbytes, hrest⟩
          rw [Prod.ext htext hbytes, ih hrest hlater hlater']

/-- Decoding works from piece to piece. -/
theorem unescape_append {text : List Char} {bytes : List UInt8} (h : LiteralPiece text bytes)
    (rest : List Char) : unescape (text ++ rest) = (unescape rest).map (bytes ++ ·) := by
  rcases h.plain_or_escape with ⟨c, hc, rfl, rfl⟩ | ⟨inner, rfl⟩
  · rw [List.singleton_append, unescape, if_neg hc]
  · have hread := readEscape_append h rest
    rw [List.cons_append, unescape, if_pos rfl]
    split
    next hfault => simp [hread] at hfault
    next bytes' rest' hread' =>
      obtain ⟨rfl, rfl⟩ : bytes = bytes' ∧ rest = rest' := by simpa [hread] using hread'
      rfl

/-- The bytes of a text are those of its pieces. -/
theorem unescape_eq_ok_iff {s : List Char} {bytes : List UInt8} :
    unescape s = .ok bytes ↔ ∃ pieces, Spelling pieces s bytes := by
  constructor
  · intro h
    -- The cases are those of the decoder: end, refused escape, escape, plain character.
    fun_induction unescape s generalizing bytes with
    | case1 =>
        obtain rfl : [] = bytes := by simpa using h
        exact ⟨[], Spelling.nil⟩
    | case2 => simp at h
    | case3 s first rest hread ih =>
        rcases map_eq_ok_iff.1 h with ⟨more, hmore, rfl⟩
        rcases ih hmore with ⟨pieces, hpieces⟩
        rcases readEscape_eq_ok_iff.1 hread with ⟨text, hpiece, rfl⟩
        exact ⟨_, hpieces.cons hpiece⟩
    | case4 c s hc ih =>
        rcases map_eq_ok_iff.1 h with ⟨more, hmore, rfl⟩
        rcases ih hmore with ⟨pieces, hpieces⟩
        exact ⟨_, hpieces.cons (.plain hc)⟩
  · rintro ⟨pieces, hpieces, rfl, rfl⟩
    induction pieces with
    | nil => simp [unescape]
    | cons p later ih =>
        rcases List.forall_mem_cons.1 hpieces with ⟨hp, hlater⟩
        rw [List.flatMap_cons, unescape_append hp, ih hlater]
        rfl

/-! ## Literals -/

def quoted (inner : String) : String :=
  "\"" ++ inner ++ "\""

/-- A literal in double quotes is never taken for a raw one. -/
theorem payload_quoted (inner : String) :
    payload (quoted inner) =
      (interpret inner.toList).mapError (MalformedTag.mk (quoted inner)) := by
  have hlist : (quoted inner).toList = '"' :: (inner.toList ++ ['"']) := by
    simp [quoted]
  have hraw : unwrap? backquote (quoted inner).toList = none := by
    rw [Option.eq_none_iff_forall_ne_some]
    intro text htext
    have hquote := unwrap?_eq_some_iff.1 htext
    rw [hlist] at hquote
    exact absurd (List.cons.inj hquote).1 (by decide)
  have hquoted : unwrap? '"' (quoted inner).toList = some inner.toList :=
    unwrap?_eq_some_iff.2 hlist
  simp [payload, hraw, hquoted]

/-- A text is decoded when the bytes of its pieces together are UTF-8, even where those of one piece
alone are not. -/
theorem interpret_eq_ok_iff {inner : List Char} {s : String} :
    interpret inner = .ok s ↔ ∃ pieces, Spelling pieces inner (utf8 s) := by
  have hsteps : interpret inner = .ok s ↔
      ∃ bytes, unescape inner = .ok bytes ∧ ofUtf8? bytes = some s := by
    unfold interpret
    cases unescape inner with
    | error fault => simp
    | ok bytes =>
        cases htext : ofUtf8? bytes with
        | none => simp [htext]
        | some text => simp [htext]
  rw [hsteps, ← unescape_eq_ok_iff]
  constructor
  · rintro ⟨bytes, hbytes, htext⟩
    rw [hbytes, ofUtf8?_eq_some_iff.1 htext]
  · intro hbytes
    exact ⟨utf8 s, hbytes, ofUtf8?_eq_some_iff.2 rfl⟩

/-! ## The arithmetic of digits -/

/-- Whether all that is computed while `count` digits are read fits a word of 32 bits: after any
number `k` of the digits, the next one leads to a value that fits. -/
def DigitsFit (base count : Nat) : Prop :=
  ∀ (k n d : Nat) (s rest : List Char) (c : Char), k < count →
    readDigits base k 0 s = some (n, c :: rest) → digitValue? base c = some d →
    n * base + d < 2 ^ 32

/-- Every intermediate sum of a numeral stays below `2 ^ 32` when its largest value does. -/
theorem digitsFit {base count : Nat} (hone : 1 < base) (hbase : base ≤ 16)
    (hfit : base ^ count ≤ 2 ^ 32) : DigitsFit base count := by
  intro k n d s rest c hk hread hd
  rcases (readDigits_eq_some_iff hbase).1 hread with ⟨text, m, hlength, hm, -, hsum⟩
  obtain rfl : m = n := by simpa using hsum
  have hdigit : d < base := ((digitValue?_eq_some_iff hbase).1 hd).1
  have hlt : m < base ^ k := hlength ▸ hm.lt hone
  calc m * base + d
      < m * base + base := by omega
    _ = (m + 1) * base := by ring
    _ ≤ base ^ k * base := Nat.mul_le_mul_right base hlt
    _ = base ^ (k + 1) := by rw [Nat.pow_succ]
    _ ≤ base ^ count := Nat.pow_le_pow_right (by omega) hk
    _ ≤ 2 ^ 32 := hfit

/-- The numbers that escapes are read through fit words of 32 bits, and the bytes they give are not
cut off. An octal escape adds two more digits to its first. -/
structure EscapeArithmeticFits : Prop where
  hex : ∀ width ∈ [2, 4, 8], DigitsFit 16 width
  octal : DigitsFit 8 2
  octalSum : ∀ d < 8, ∀ (n : Nat) (s rest : List Char), readDigits 8 2 0 s = some (n, rest) →
    readDigits 8 2 d s = some (d * 64 + n, rest) ∧ d * 64 + n < 2 ^ 32
  hexByte : ∀ (n : Nat) (s rest : List Char), readDigits 16 2 0 s = some (n, rest) →
    n.toUInt8.toNat = n

/-- No sum of the reader overflows, at any of the widths it reads. -/
theorem escapeArithmeticFits : EscapeArithmeticFits where
  hex := by
    intro width hwidth
    have hle : width ≤ 8 := by
      simp only [List.mem_cons, List.not_mem_nil, or_false] at hwidth
      omega
    refine digitsFit (by decide) (by decide) ?_
    calc 16 ^ width ≤ 16 ^ 8 := Nat.pow_le_pow_right (by decide) hle
      _ = 2 ^ 32 := by decide
  octal := digitsFit (by decide) (by decide) (by decide)
  octalSum := by
    intro d hd n s rest hread
    rcases (readDigits_eq_some_iff (by decide)).1 hread with ⟨text, m, hlength, hm, hs, hsum⟩
    obtain rfl : m = n := by simpa using hsum
    have hlt : m < 8 ^ 2 := hlength ▸ hm.lt (by decide)
    exact ⟨(readDigits_eq_some_iff (by decide)).2 ⟨text, m, hlength, hm, hs, rfl⟩, by omega⟩
  hexByte := by
    intro n s rest hread
    exact toNat_toUInt8_of_readDigits hread

/-! ## The payload of a literal -/

/-- A double-quoted literal has a payload exactly if it is made of pieces whose bytes together are a
text, and then the payload is this text. There is at most one way to cut a literal into pieces. Any
other literal is refused with a report of the whole of it, and no number on the way leaves a word of
32 bits or loses a part as a byte. -/
theorem payload_eq_ok_iff_spelling (inner : String) :
    (∀ s, payload (quoted inner) = .ok s ↔ ∃ pieces, Spelling pieces inner.toList (utf8 s)) ∧
    (∀ (pieces pieces' : List (List Char × List UInt8)) (bytes bytes' : List UInt8),
      Spelling pieces inner.toList bytes → Spelling pieces' inner.toList bytes' →
      pieces = pieces') ∧
    ((¬ ∃ s pieces, Spelling pieces inner.toList (utf8 s)) →
      ∃ fault, payload (quoted inner) = .error ⟨quoted inner, fault⟩) ∧
    EscapeArithmeticFits := by
  refine ⟨?_, ?_, ?_, escapeArithmeticFits⟩
  · intro s
    rw [← interpret_eq_ok_iff, payload_quoted]
    cases interpret inner.toList with
    | error fault => simp [Except.mapError]
    | ok text => simp [Except.mapError]
  · intro pieces pieces' bytes bytes' h h'
    exact h.unique h'
  · intro hnone
    cases hread : interpret inner.toList with
    | error fault => exact ⟨fault, by simp [payload_quoted, hread, Except.mapError]⟩
    | ok text => exact absurd ⟨text, interpret_eq_ok_iff.1 hread⟩ hnone

/-- Two byte escapes that form a character only together, and one that forms none. -/
theorem payload_eq_ok_iff_spelling_bytes :
    Spelling [(['\\', '3', '0', '3'], [0xC3]), (['\\', 'x', 'A', '9'], [0xA9])]
        "\\303\\xA9".toList (utf8 "é") ∧
      payload (quoted "\\303\\xA9") = .ok "é" ∧
      (∀ pieces bytes, Spelling pieces "\\303\\xA9".toList bytes →
        [(['\\', '3', '0', '3'], [0xC3]), (['\\', 'x', 'A', '9'], [0xA9])] = pieces) ∧
      ∃ fault, payload (quoted "\\xff") = .error ⟨quoted "\\xff", fault⟩ := by
  have hoctal : LiteralPiece ['\\', '3', '0', '3'] [0xC3] := by
    refine .octalByte rfl ⟨[3, 0, 3], ?_, by decide⟩
    simp [IsDigitOf, Nat.digitChar]
  have hhex : LiteralPiece ['\\', 'x', 'A', '9'] [0xA9] := by
    refine .hexByte rfl ⟨[10, 9], ?_, by decide⟩
    simp [IsDigitOf, Nat.digitChar]
  have hspelling : Spelling [(['\\', '3', '0', '3'], [0xC3]), (['\\', 'x', 'A', '9'], [0xA9])]
      "\\303\\xA9".toList (utf8 "é") := by
    -- Neither byte is UTF-8 on its own; the pair is.
    have hutf8 : utf8 "é" = [0xC3] ++ ([0xA9] ++ []) := by decide +kernel
    rw [hutf8]
    exact (Spelling.nil.cons hhex).cons hoctal
  have hrefused : payload (quoted "\\xff") = .error ⟨quoted "\\xff", .notUtf8⟩ := by
    decide +kernel
  refine ⟨hspelling, ?_, ?_, ?_⟩
  · exact ((payload_eq_ok_iff_spelling "\\303\\xA9").1 "é").2 ⟨_, hspelling⟩
  · intro pieces bytes h
    exact (payload_eq_ok_iff_spelling "\\303\\xA9").2.1 _ _ _ _ hspelling h
  · refine (payload_eq_ok_iff_spelling "\\xff").2.2.1 ?_
    rintro ⟨s, h⟩
    have haccepted := ((payload_eq_ok_iff_spelling "\\xff").1 s).2 h
    simp [hrefused] at haccepted

end Tag
end GoSurvey
