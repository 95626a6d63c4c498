import GoSurvey.Text.Hidden
import GoSurvey.Text.Letter
import GoSurvey.Text.Mark
import GoSurvey.Text.Number

/-!
# Character classes

The classes that the survey asks for, each one a Boolean combination of the range tables.

* `isBlank` — white space;
* `isAlphabetic`, `isNumeric`, `isAlphanumeric` — the characters of a plain name;
* `isXidStart`, `isXidContinue` — the characters of a source identifier, closed under
  compatibility normalisation;
* `isGraphemeExtend`, `isVisible` — what decides whether a quoted character is written as itself.
-/

namespace GoSurvey
namespace Text

/-! ## Blanks -/

/-- The characters with the property `White_Space`. -/
def blanks : RangeTable :=
  [(0x9, 0xD), (0x20, 0x20), (0x85, 0x85), (0xA0, 0xA0), (0x1680, 0x1680), (0x2000, 0x200A),
   (0x2028, 0x2029), (0x202F, 0x202F), (0x205F, 0x205F), (0x3000, 0x3000)]

/-- White space: the controls from tab to carriage return, the next-line control, and every
separator. -/
def isBlank (c : Char) : Bool :=
  blanks.contains c

/-! ## Letters and numbers -/

/-- Letters, letter numbers and the signs that are alphabetic beside them. -/
def isAlphabetic (c : Char) : Bool :=
  letters.contains c || letterNumbers.contains c || otherAlphabetic.contains c

/-- Numbers of every kind: decimal digits, letter numbers, fractions and the rest. -/
def isNumeric (c : Char) : Bool :=
  decimalDigits.contains c || letterNumbers.contains c || otherNumbers.contains c

def isAlphanumeric (c : Char) : Bool :=
  isAlphabetic c || isNumeric c

/-! ## Identifier characters -/

/-- Characters that may start an identifier though they are neither letters nor letter numbers. -/
def otherStarts : RangeTable :=
  [(0x1885, 0x1886), (0x2118, 0x2118), (0x212E, 0x212E)]

/-- Letters that may not start an identifier: pattern syntax, and letters whose compatibility
form does not start with a letter. -/
def barredStarts : RangeTable :=
  [(0x37A, 0x37A), (0xE33, 0xE33), (0xEB3, 0xEB3), (0x2E2F, 0x2E2F), (0xFC5E, 0xFC63),
   (0xFDFA, 0xFDFB), (0xFE70, 0xFE70), (0xFE72, 0xFE72), (0xFE74, 0xFE74), (0xFE76, 0xFE76),
   (0xFE78, 0xFE78), (0xFE7A, 0xFE7A), (0xFE7C, 0xFE7C), (0xFE7E, 0xFE7E), (0xFF9E, 0xFF9F)]

/-- Characters that may only continue an identifier though they are neither marks, digits nor
connectors. -/
def otherContinues : RangeTable :=
  [(0xB7, 0xB7), (0x387, 0x387), (0xE33, 0xE33), (0xEB3, 0xEB3), (0x1369, 0x1371),
   (0x19DA, 0x19DA), (0x200C, 0x200D), (0x30FB, 0x30FB), (0xFF65, 0xFF65), (0xFF9E, 0xFF9F)]

/-- The property `XID_Start`. -/
def isXidStart (c : Char) : Bool :=
  (letters.contains c || letterNumbers.contains c || otherStarts.contains c)
    && !barredStarts.contains c

/-- The property `XID_Continue`. -/
def isXidContinue (c : Char) : Bool :=
  isXidStart c || decimalDigits.contains c || connectors.contains c
    || nonspacingMarks.contains c || spacingMarks.contains c || otherContinues.contains c

/-! ## Visibility -/

/-- The property `Grapheme_Extend`: the character is drawn on the one before it. -/
def isGraphemeExtend (c : Char) : Bool :=
  nonspacingMarks.contains c || enclosingMarks.contains c || otherGraphemeExtend.contains c

/-- Whether the character has a form of its own on the page; the plain space has. -/
def isVisible (c : Char) : Bool :=
  !hidden.contains c

/-! ## Digits -/

def isDigit (c : Char) : Bool :=
  '0' ≤ c && c ≤ '9'

/-- The value of a digit in a base of at most sixteen; both cases of a letter count. -/
def digitValue? (base : Nat) (c : Char) : Option Nat :=
  let value :=
    if '0' ≤ c ∧ c ≤ '9' then some (c.toNat - '0'.toNat)
    else if 'a' ≤ c ∧ c ≤ 'f' then some (c.toNat - 'a'.toNat + 10)
    else if 'A' ≤ c ∧ c ≤ 'F' then some (c.toNat - 'A'.toNat + 10)
    else none
  value.filter (· < base)

end Text
end GoSurvey
