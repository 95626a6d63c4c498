import GoSurvey.Tag
import GoSurvey.Text.Utf8

/-!
# Tag literals

A tag is written as a string literal: between backquotes, where every character stands for
itself, or between double quotes, where a backslash starts an escape.

* `Tag.readEscape` — the bytes of one escape and the text after it;
* `Tag.unescape` — the bytes of a whole double-quoted text;
* `Tag.payload` — the payload of a literal.

Byte escapes may only together form a character, so the text is collected as bytes and read as
UTF-8 at the end.
-/

namespace GoSurvey
namespace Tag

open Text

/-! ## Escapes -/

/-- Exactly `count` digits of the base, read on from the value so far, and the text after them. -/
def readDigits (base : Nat) : (count value : Nat) → List Char → Option (Nat × List Char)
  | 0, value, s => some (value, s)
  | _ + 1, _, [] => none
  | count + 1, value, c :: s =>
      match digitValue? base c with
      | none => none
      | some d => readDigits base count (value * base + d) s

/-- The UTF-8 bytes of the character with this code point, if there is one. -/
def scalarBytes? (n : Nat) : Option (List UInt8) :=
  if n.isValidChar then some (String.utf8EncodeChar (Char.ofNat n)) else none

def readScalar (width : Nat) (s : List Char) : Except TagFault (List UInt8 × List Char) :=
  match readDigits 16 width 0 s with
  | none => .error .unicodeEscape
  | some (n, rest) =>
      match scalarBytes? n with
      | none => .error .unicodeEscape
      | some bytes => .ok (bytes, rest)

def simpleEscape? (c : Char) : Option UInt8 :=
  match c with
  | 'a' => some 0x07
  | 'b' => some 0x08
  | 'f' => some 0x0C
  | 'n' => some 0x0A
  | 'r' => some 0x0D
  | 't' => some 0x09
  | 'v' => some 0x0B
  | '\\' => some 0x5C
  | '"' => some 0x22
  | _ => none

/-- What follows a backslash: the bytes it stands for and the text after it. -/
def readEscape : List Char → Except TagFault (List UInt8 × List Char)
  | [] => .error .danglingEscape
  | c :: s =>
      match simpleEscape? c with
      | some byte => .ok ([byte], s)
      | none =>
          if c = 'x' then
            match readDigits 16 2 0 s with
            | none => .error .hexEscape
            | some (n, rest) => .ok ([n.toUInt8], rest)
          else if c = 'u' then readScalar 4 s
          else if c = 'U' then readScalar 8 s
          else
            match digitValue? 8 c with
            | none => .error .unknownEscape
            | some d =>
                match readDigits 8 2 d s with
                | none => .error .octalEscape
                | some (n, rest) =>
                    if n ≤ 255 then .ok ([n.toUInt8], rest) else .error .octalRange

/-- What is left behind digits is no longer than the text. -/
theorem readDigits_length {base count value n : Nat} {s rest : List Char}
    (h : readDigits base count value s = some (n, rest)) : rest.length ≤ s.length := by
  induction count generalizing value s with
  | zero => simp only [readDigits, Option.some.injEq, Prod.mk.injEq] at h; simp [h.2]
  | succ count ih =>
      cases s with
      | nil => simp [readDigits] at h
      | cons c s =>
          simp only [readDigits] at h
          split at h
          · simp at h
          · exact Nat.le_succ_of_le (ih h)

/-- What is left behind a Unicode escape is no longer than the text. -/
theorem readScalar_length {width : Nat} {s rest : List Char} {bytes : List UInt8}
    (h : readScalar width s = .ok (bytes, rest)) : rest.length ≤ s.length := by
  unfold readScalar at h
  split at h
  · simp at h
  next read =>
    split at h
    · simp at h
    · simp only [Except.ok.injEq, Prod.mk.injEq] at h
      exact h.2 ▸ readDigits_length read

/-- An escape takes at least the character after the backslash. -/
theorem readEscape_length {s rest : List Char} {bytes : List UInt8}
    (h : readEscape s = .ok (bytes, rest)) : rest.length < s.length := by
  cases s with
  | nil => simp [readEscape] at h
  | cons c s =>
      simp only [readEscape] at h
      refine Nat.lt_succ_of_le ?_
      split at h
      · simp only [Except.ok.injEq, Prod.mk.injEq] at h
        simp [h.2]
      · split at h
        · split at h
          · simp at h
          next read =>
            simp only [Except.ok.injEq, Prod.mk.injEq] at h
            exact h.2 ▸ readDigits_length read
        · split at h
          · exact readScalar_length h
          · split at h
            · exact readScalar_length h
            · split at h
              · simp at h
              · split at h
                · simp at h
                next read =>
                  split at h
                  · simp only [Except.ok.injEq, Prod.mk.injEq] at h
                    exact h.2 ▸ readDigits_length read
                  · simp at h

/-- The bytes of a double-quoted text, or the fault of its first bad escape. -/
def unescape : List Char → Except TagFault (List UInt8)
  | [] => .ok []
  | c :: s =>
      if c = '\\' then
        match _h : readEscape s with
        | .error fault => .error fault
        | .ok (bytes, rest) => (unescape rest).map (bytes ++ ·)
      else (unescape s).map (String.utf8EncodeChar c ++ ·)
termination_by s => s.length
decreasing_by
  · have := readEscape_length _h
    simp only [List.length_cons]
    omega
  · simp

/-! ## Literals -/

def backquote : Char := '\x60'

/-- The text between the double quotes of a literal, with its escapes replaced. -/
def interpret (inner : List Char) : Except TagFault String :=
  match unescape inner with
  | .error fault => .error fault
  | .ok bytes =>
      match ofUtf8? bytes with
      | none => .error .notUtf8
      | some text => .ok text

/-- The payload of a literal. A text in neither kind of quotes is its own payload; a bad escape
is reported with the whole literal. -/
def payload (literal : String) : Except MalformedTag String :=
  match unwrap? backquote literal.toList with
  | some inner => .ok (String.ofList inner)
  | none =>
      match unwrap? '"' literal.toList with
      | none => .ok literal
      | some inner => (interpret inner).mapError (MalformedTag.mk literal)

def ofLiteral (literal : String) : Except MalformedTag Tag :=
  (payload literal).bind decode

end Tag
end GoSurvey
