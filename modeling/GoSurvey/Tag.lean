import GoSurvey.Text.Cut

/-!
# Struct tags

The payload of a struct tag is a list of `key:"value"` entries with one space between any two.

* `Tag.decode raw` — the entries of a payload, or the fault of its first bad token;
* `Tag.encode entries` — the payload that spells the entries;
* `Tag.get? tag key` — the first value bound to a key.
-/

namespace GoSurvey

structure TagEntry where
  key : String
  value : String
deriving DecidableEq

/-- A decoded tag: its payload and the entries in the order in which they are written. -/
structure Tag where
  raw : String
  entries : List TagEntry
deriving DecidableEq

/-- What can be wrong with a tag, in its entries or in the escapes of its literal. -/
inductive TagFault where
  | emptyToken
  | missingColon
  | emptyKey
  | unbalancedQuotes
  | danglingEscape
  | unknownEscape
  | hexEscape
  | octalEscape
  | octalRange
  | unicodeEscape
  | notUtf8
deriving DecidableEq

def TagFault.reason : TagFault → String
  | .emptyToken => "empty token"
  | .missingColon => "missing colon"
  | .emptyKey => "empty key"
  | .unbalancedQuotes => "unbalanced quotes"
  | .danglingEscape => "dangling escape"
  | .unknownEscape => "unknown escape"
  | .hexEscape => "invalid hex escape"
  | .octalEscape => "invalid octal escape"
  | .octalRange => "octal escape out of range"
  | .unicodeEscape => "invalid unicode escape"
  | .notUtf8 => "invalid UTF-8"

/-- A refused tag: the text that was to be decoded, whole, and its first fault. -/
structure MalformedTag where
  text : String
  fault : TagFault
deriving DecidableEq

def MalformedTag.message (e : MalformedTag) : String :=
  "malformed tag `" ++ e.text ++ "`: " ++ e.fault.reason

namespace Tag

open Text

/-! ## Reading -/

def unwrap? (q : Char) (s : List Char) : Option (List Char) :=
  (dropPrefix? [q] s).bind (dropSuffix? [q])

/-- A text is unwrapped only if it has the quote at both ends, and these are two. -/
theorem unwrap?_eq_some_iff {q : Char} {s inner : List Char} :
    unwrap? q s = some inner ↔ s = q :: (inner ++ [q]) := by
  unfold unwrap?
  constructor
  · intro h
    rcases Option.bind_eq_some_iff.1 h with ⟨rest, hrest, hinner⟩
    have hs := dropPrefix?_eq_some_iff.1 hrest
    have hend := dropSuffix?_eq_some_iff.1 hinner
    simpa [hend] using hs
  · intro h
    have hrest : dropPrefix? [q] s = some (inner ++ [q]) :=
      dropPrefix?_eq_some_iff.2 (by simpa using h)
    rw [hrest]
    exact dropSuffix?_eq_some_iff.2 rfl

/-- An entry is split at its first colon, and one quote goes from each end of its value. -/
def readEntry (token : List Char) : Except TagFault TagEntry :=
  if token.isEmpty then .error .emptyToken
  else
    match cut? ':' token with
    | none => .error .missingColon
    | some (key, quoted) =>
        if key.isEmpty then .error .emptyKey
        else
          match unwrap? '"' quoted with
          | none => .error .unbalancedQuotes
          | some value => .ok ⟨String.ofList key, String.ofList value⟩

/-- The entries of a payload. An empty payload has none; any other is cut at single spaces, and
its first bad token decides the fault. -/
def readEntries (payload : List Char) : Except TagFault (List TagEntry) :=
  if payload.isEmpty then .ok [] else (splitOn ' ' payload).mapM readEntry

def decode (raw : String) : Except MalformedTag Tag :=
  match readEntries raw.toList with
  | .error fault => .error ⟨raw, fault⟩
  | .ok entries => .ok ⟨raw, entries⟩

/-! ## Writing -/

def writeEntry (e : TagEntry) : List Char :=
  e.key.toList ++ ':' :: '"' :: e.value.toList ++ ['"']

def encode (entries : List TagEntry) : String :=
  String.ofList (joinWith ' ' (entries.map writeEntry))

/-! ## Look-up -/

def get? (tag : Tag) (key : String) : Option String :=
  (tag.entries.find? fun e => e.key == key).map (·.value)

end Tag
end GoSurvey
