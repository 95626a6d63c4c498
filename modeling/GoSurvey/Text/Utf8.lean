import GoSurvey.Text.CharClass

/-!
# Bytes and text

* `utf8 s` — the bytes of a text;
* `ofUtf8? bytes` — the text that bytes encode;
* `lossy bytes` — a text for any bytes: each longest start of a character that is not completed,
  and each byte that starts none, becomes one replacement character.
-/

namespace GoSurvey
namespace Text

def utf8 (s : String) : List UInt8 :=
  s.toUTF8.data.toList

def ofUtf8? (bytes : List UInt8) : Option String :=
  String.fromUTF8? ⟨bytes.toArray⟩

/-- Bytes that encode a text are the bytes of this text. -/
theorem ofUtf8?_eq_some_iff {bytes : List UInt8} {s : String} :
    ofUtf8? bytes = some s ↔ utf8 s = bytes := by
  unfold ofUtf8? utf8
  constructor
  · intro decoded
    unfold String.fromUTF8? at decoded
    split at decoded
    next valid =>
      obtain rfl := Option.some.inj decoded
      rfl
    next => simp at decoded
  · rintro rfl
    exact dif_pos s.isValidUTF8

/-- The bytes of a text are those of its characters. -/
theorem utf8_eq_flatMap (s : String) : utf8 s = s.toList.flatMap String.utf8EncodeChar := by
  have h : s.toByteArray = s.toList.utf8Encode := by
    rw [← String.toByteArray_ofList, String.ofList_toList]
  simp [utf8, String.toUTF8, h, List.utf8Encode]

/-! ## Lossy decoding -/

/-- What the first byte of a character of several bytes says: how many bytes follow, and between
which bounds the first of these lies. -/
def leadByte? (b : UInt8) : Option (Nat × UInt8 × UInt8) :=
  if b < 0xC2 then none
  else if b < 0xE0 then some (1, 0x80, 0xBF)
  else if b = 0xE0 then some (2, 0xA0, 0xBF)
  else if b = 0xED then some (2, 0x80, 0x9F)
  else if b < 0xF0 then some (2, 0x80, 0xBF)
  else if b = 0xF0 then some (3, 0x90, 0xBF)
  else if b < 0xF4 then some (3, 0x80, 0xBF)
  else if b = 0xF4 then some (3, 0x80, 0x8F)
  else none

/-- How many of at most `count` bytes go on with a character, the first of them between bounds. -/
def continuation : Nat → UInt8 → UInt8 → List UInt8 → Nat
  | 0, _, _, _ => 0
  | _, _, _, [] => 0
  | count + 1, low, high, b :: rest =>
      if low ≤ b ∧ b ≤ high then continuation count 0x80 0xBF rest + 1 else 0

def leadBits (b : UInt8) (count : Nat) : Nat :=
  b.toNat % (1 <<< (6 - count))

def assemble (b : UInt8) (following : List UInt8) : Char :=
  Char.ofNat (following.foldl (fun n c => n * 64 + c.toNat % 64) (leadBits b following.length))

def replacement : Char := '\uFFFD'

def lossy : List UInt8 → List Char
  | [] => []
  | b :: rest =>
      if b < 0x80 then Char.ofNat b.toNat :: lossy rest
      else
        match leadByte? b with
        | none => replacement :: lossy rest
        | some (count, low, high) =>
            let n := continuation count low high rest
            let c := if n = count then assemble b (rest.take n) else replacement
            c :: lossy (rest.drop n)
termination_by bytes => bytes.length
decreasing_by
  all_goals
    simp only [List.length_cons, List.length_drop]
    omega

end Text
end GoSurvey
