import GoSurvey.Model.Json
import GoSurvey.Proofs.JsonRoundTrip

/-!
# Reading a printed model back

Every record of the model is a document from which it can be read back, and so is every package
model with the text that it is printed as.

* `Json.exactFields?_record` — the fields of a document that was made from a record's keys;
* `Json.RoundTrips` — a way to write values as documents, and one to read them, that are inverse;
* `Model.Package.render_reads_back` — the text of a package model spells this model.
-/

namespace GoSurvey
namespace Json

variable {α β : Type}

/-! ## Fields of a record -/

/-- A reader that succeeds on every entry succeeds on the list. -/
theorem mapM_eq_some_map {f : α → Option β} {g : α → β} {l : List α}
    (h : ∀ a ∈ l, f a = some (g a)) : l.mapM f = some (l.map g) := by
  induction l with
  | nil => rfl
  | cons a l ih =>
      rcases List.forall_mem_cons.1 h with ⟨ha, hlater⟩
      simp [ha, ih hlater]

theorem members?_map_some (members : List (String × Json)) :
    members? (members.map fun (key, value) => (some key, value)) = some members := by
  induction members with
  | nil => rfl
  | cons m members ih => simp [members?, ih]

/-- A key that stands once in an object has the value that stands beside it. -/
theorem unique?_of_mem {members : List (String × Json)} (hkeys : (members.map Prod.fst).Nodup)
    {m : String × Json} (hm : m ∈ members) : unique? members m.1 = some (some m.2) := by
  have honly : members.filter (·.1 == m.1) = [m] := by
    induction members with
    | nil => simp at hm
    | cons first members ih =>
        rcases List.nodup_cons.1 hkeys with ⟨hfirst, hlater⟩
        rcases List.mem_cons.1 hm with rfl | hm
        -- No later member has the key of the first.
        · have hnone : members.filter (·.1 == m.1) = [] := by
            refine List.filter_eq_nil_iff.2 ?_
            intro other hother hsame
            have hkey : other.1 = m.1 := by simpa using hsame
            exact hfirst (hkey ▸ List.mem_map_of_mem hother)
          simp [hnone]
        · have hother : first.1 ≠ m.1 := by
            intro hsame
            exact hfirst (hsame ▸ List.mem_map_of_mem hm)
          simp [hother, ih hlater hm]
  simp [unique?, honly]

/-- The fields of a document that was made from the keys of a record are all there. -/
@[simp]
theorem exactFields?_record {keys : List String} {members : List (String × Json)}
    (hkeys : members.map Prod.fst = keys) (hnodup : keys.Nodup) :
    (record members).exactFields? keys = some (members.map fun m => some m.2) := by
  subst hkeys
  have hvalues : members.mapM (fun m => unique? members m.1) =
      some (members.map fun m => some m.2) :=
    mapM_eq_some_map fun m hm => unique?_of_mem hnodup hm
  simpa [exactFields?, record, isFull, fields?, members?_map_some, Function.comp_def] using hvalues

/-- A record holds no number but those of its members. -/
theorem natOnly_record {members : List (String × Json)} (h : ∀ m ∈ members, m.2.NatOnly) :
    (record members).NatOnly := by
  refine .obj ?_
  intro m hm
  rcases List.mem_map.1 hm with ⟨member, hmember, rfl⟩
  exact h member hmember

/-! ## Inverse pairs -/

/-- Values that are written as documents with whole numbers only, and are read back from these. -/
structure RoundTrips (encode : α → Json) (decode : Json → Option α) : Prop where
  natOnly : ∀ a, (encode a).NatOnly
  decode_encode : ∀ a, decode (encode a) = some a

@[simp]
theorem natOnly_text (s : String) : (text s).NatOnly :=
  .str (some s)

@[simp]
theorem text?_text (s : String) : (text s).text? = some s :=
  rfl

@[simp]
theorem natOnly_optionalText (s : Option String) : (optionalText s).NatOnly := by
  cases s with
  | none => exact .null
  | some s => exact .str (some s)

/-- Both a missing text and a present one are read back. -/
@[simp]
theorem optionalText?_optionalText (s : Option String) :
    (optionalText s).optionalText? = some s := by
  cases s with
  | none => rfl
  | some s => rfl

@[simp]
theorem natOnly_bool (b : Bool) : (bool b).NatOnly :=
  .bool b

@[simp]
theorem bool?_bool (b : Bool) : (bool b).bool? = some b :=
  rfl

@[simp]
theorem natOnly_nat (n : Nat) : (nat n).NatOnly :=
  .nat n

/-- A word is written as a number below `2 ^ 32`, which is what the reader asks for. -/
@[simp]
theorem word32?_toNat (w : UInt32) : (nat w.toNat).word32? = some w := by
  have hsize : w.toNat < UInt32.size := w.toNat_lt_size
  simp [word32?, hsize]

/-- Lists round trip if their elements do. -/
theorem RoundTrips.list {encode : α → Json} {decode : Json → Option α}
    (h : RoundTrips encode decode) : RoundTrips (Json.list encode) (list? decode) where
  natOnly l := by
    refine .arr ?_
    intro v hv
    rcases List.mem_map.1 hv with ⟨a, -, rfl⟩
    exact h.natOnly a
  decode_encode l := by
    have hitems : l.mapM (fun a => decode (encode a)) = some (l.map id) :=
      mapM_eq_some_map fun a _ => h.decode_encode a
    simpa [list?, Json.list, Function.comp_def] using hitems

theorem roundTrips_texts : RoundTrips (Json.list text) (list? text?) :=
  RoundTrips.list ⟨natOnly_text, text?_text⟩

end Json

open Json

/-! ## The records of the model -/

theorem TagEntry.roundTrips : RoundTrips TagEntry.toJson TagEntry.ofJson? where
  natOnly e := natOnly_record (by simp)
  decode_encode e := by simp [toJson, ofJson?]

theorem Tag.roundTrips : RoundTrips Tag.toJson Tag.ofJson? where
  natOnly t := natOnly_record (by simp [TagEntry.roundTrips.list.natOnly])
  decode_encode t := by simp [toJson, ofJson?, TagEntry.roundTrips.list.decode_encode]

theorem Annotation.roundTrips : RoundTrips Annotation.toJson Annotation.ofJson? where
  natOnly a := natOnly_record (by simp)
  decode_encode a := by simp [toJson, ofJson?]

namespace Model

theorem Position.roundTrips : RoundTrips Position.toJson Position.ofJson? where
  natOnly p := natOnly_record (by simp)
  decode_encode p := by simp [toJson, ofJson?]

theorem Diagnostic.roundTrips : RoundTrips Diagnostic.toJson Diagnostic.ofJson? where
  natOnly d := natOnly_record (by simp [Position.roundTrips.natOnly])
  decode_encode d := by simp [toJson, ofJson?, Position.roundTrips.decode_encode]

/-- A field is read back with its tags. -/
theorem Field.roundTrips : RoundTrips Field.toJson Field.ofJson? where
  natOnly f := natOnly_record (by simp [Tag.roundTrips.list.natOnly])
  decode_encode f := by simp [toJson, ofJson?, Tag.roundTrips.list.decode_encode]

theorem Param.roundTrips : RoundTrips Param.toJson Param.ofJson? where
  natOnly p := natOnly_record (by simp)
  decode_encode p := by simp [toJson, ofJson?]

theorem Result.roundTrips : RoundTrips Result.toJson Result.ofJson? where
  natOnly r := natOnly_record (by simp)
  decode_encode r := by simp [toJson, ofJson?]

/-- A method is read back with its parameters and results. -/
theorem Method.roundTrips : RoundTrips Method.toJson Method.ofJson? where
  natOnly m :=
    natOnly_record (by
      simp [roundTrips_texts.natOnly, Param.roundTrips.list.natOnly,
        Result.roundTrips.list.natOnly])
  decode_encode m := by
    simp [toJson, ofJson?, roundTrips_texts.decode_encode, Param.roundTrips.list.decode_encode,
      Result.roundTrips.list.decode_encode]

/-- A struct is read back with its fields, methods and annotations. -/
theorem Struct.roundTrips : RoundTrips Struct.toJson Struct.ofJson? where
  natOnly s :=
    natOnly_record (by
      simp [Position.roundTrips.natOnly, roundTrips_texts.natOnly, Field.roundTrips.list.natOnly,
        Method.roundTrips.list.natOnly, Annotation.roundTrips.list.natOnly])
  decode_encode s := by
    simp [toJson, ofJson?, Position.roundTrips.decode_encode, roundTrips_texts.decode_encode,
      Field.roundTrips.list.decode_encode, Method.roundTrips.list.decode_encode,
      Annotation.roundTrips.list.decode_encode]

theorem Interface.roundTrips : RoundTrips Interface.toJson Interface.ofJson? where
  natOnly i :=
    natOnly_record (by
      simp [Position.roundTrips.natOnly, roundTrips_texts.natOnly, Method.roundTrips.list.natOnly])
  decode_encode i := by
    simp [toJson, ofJson?, Position.roundTrips.decode_encode, roundTrips_texts.decode_encode,
      Method.roundTrips.list.decode_encode]

theorem Func.roundTrips : RoundTrips Func.toJson Func.ofJson? where
  natOnly f :=
    natOnly_record (by
      simp [Position.roundTrips.natOnly, roundTrips_texts.natOnly, Param.roundTrips.list.natOnly,
        Result.roundTrips.list.natOnly])
  decode_encode f := by
    simp [toJson, ofJson?, Position.roundTrips.decode_encode, roundTrips_texts.decode_encode,
      Param.roundTrips.list.decode_encode, Result.roundTrips.list.decode_encode]

/-- A file is read back with its declarations and diagnostics. -/
theorem File.roundTrips : RoundTrips File.toJson File.ofJson? where
  natOnly f :=
    natOnly_record (by
      simp [Struct.roundTrips.list.natOnly, Interface.roundTrips.list.natOnly,
        Func.roundTrips.list.natOnly, Diagnostic.roundTrips.list.natOnly])
  decode_encode f := by
    simp [toJson, ofJson?, Struct.roundTrips.list.decode_encode,
      Interface.roundTrips.list.decode_encode, Func.roundTrips.list.decode_encode,
      Diagnostic.roundTrips.list.decode_encode]

/-- A package is read back with its files. -/
theorem Package.roundTrips : RoundTrips Package.toJson Package.ofJson? where
  natOnly p := natOnly_record (by simp [File.roundTrips.list.natOnly])
  decode_encode p := by simp [toJson, ofJson?, File.roundTrips.list.decode_encode]

/-! ## Texts -/

/-- The text of a package model is the text of its document, and reading it gives the model back,
whatever its texts, its lists and its positions are. -/
theorem Package.render_reads_back (p : Package) :
    Json.parse? p.render = some p.toJson ∧ Package.parse? p.render = some p := by
  have hdocument : Json.parse? p.render = some p.toJson :=
    parse?_pretty (Package.roundTrips.natOnly p)
  refine ⟨hdocument, ?_⟩
  rw [Package.parse?, hdocument, Option.bind_some]
  exact Package.roundTrips.decode_encode p

end Model
end GoSurvey
