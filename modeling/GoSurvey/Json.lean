import GoSurvey.Text.CharClass

/-!
# JSON values

* `Json` — a document;
* `Json.record` — an object with given keys;
* `Json.fields?` — the values of a record's keys, from an object or from an array that lists them in
  order.
-/

namespace GoSurvey

/-- A JSON document. A string is `none` if an escape in it names half of a surrogate pair, so that
it is no text; members of an object stand in the order in which they are written. -/
inductive Json where
  | null
  | bool (b : Bool)
  /-- A number written with digits only. -/
  | nat (n : Nat)
  /-- Any other number, as it is written. -/
  | number (literal : String)
  | str (text : Option String)
  | arr (items : List Json)
  | obj (members : List (Option String × Json))

namespace Json

/-! ## Building -/

def text (s : String) : Json :=
  str (some s)

def optionalText : Option String → Json
  | none => null
  | some s => text s

def list {α : Type} (encode : α → Json) (l : List α) : Json :=
  arr (l.map encode)

def record (members : List (String × Json)) : Json :=
  obj (members.map fun (key, value) => (some key, value))

/-! ## Taking apart -/

def bool? : Json → Option Bool
  | bool b => some b
  | _ => none

def text? : Json → Option String
  | str s => s
  | _ => none

def optionalText? : Json → Option (Option String)
  | null => some none
  | v => v.text?.map some

def word32? : Json → Option UInt32
  | nat n => if n < UInt32.size then some n.toUInt32 else none
  | _ => none

def list? {α : Type} (decode : Json → Option α) : Json → Option (List α)
  | arr items => items.mapM decode
  | _ => none

/-- The members of an object as texts and values; `none` if a key is no text. -/
def members? : List (Option String × Json) → Option (List (String × Json))
  | [] => some []
  | (key, value) :: rest =>
      match key, members? rest with
      | some key, some rest => some ((key, value) :: rest)
      | _, _ => none

/-- The value of a key that occurs at most once: `none` if it occurs twice. -/
def unique? (members : List (String × Json)) (key : String) : Option (Option Json) :=
  match members.filter (·.1 == key) with
  | [] => some none
  | [member] => some (some member.2)
  | _ => none

/-- The values of the given keys. An object must have texts as keys and none of the given ones
twice, and may have others beside them; an array lists the values in order, and may leave out the
last ones. -/
def fields? (keys : List String) : Json → Option (List (Option Json))
  | obj members => do
      let members ← members? members
      keys.mapM (unique? members)
  | arr items =>
      if items.length ≤ keys.length then
        some (items.map some ++ List.replicate (keys.length - items.length) none)
      else none
  | _ => none

def isFull (size : Nat) : Json → Bool
  | arr items => items.length == size
  | _ => true

/-- The values of the given keys of a record all of which are required, save those that may be
absent from an object. -/
def exactFields? (keys : List String) (v : Json) : Option (List (Option Json)) :=
  if v.isFull keys.length then v.fields? keys else none

end Json
end GoSurvey
