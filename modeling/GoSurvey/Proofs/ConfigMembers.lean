import GoSurvey.Config
import GoSurvey.Proofs.ModelRoundTrip
import Mathlib.Data.List.Count
import Mathlib.Data.List.Perm.Basic

/-!
# The members of a configuration

A configuration depends on the members with known keys only, and not on their order. Members with
other keys may stand anywhere between them, with any values.

* `Json.unique?_of_perm`, `Json.unique?_filter` — the value of a key, whatever the order of the
  members and whatever other keys there are;
* `Config.Settings` — the options that a configuration gives;
* `Config.Fits` — the values that a known key may have;
* `Config.reads_known_members` — what a text with given members is read as.
-/

namespace GoSurvey
namespace Json

/-! ## The value of a key -/

section Keys

variable {members : List (String × Json)} {key : String}

theorem unique?_of_perm {members' : List (String × Json)} (h : members.Perm members')
    (key : String) : unique? members key = unique? members' key := by
  have hfound := h.filter (·.1 == key)
  unfold unique?
  split
  -- No value, or exactly one: so it is for the other order, where the same members are found.
  next hnone =>
    rw [hnone] at hfound
    rw [← hfound.nil_eq]
  next m hone =>
    rw [hone] at hfound
    rw [← List.singleton_perm.1 hfound]
  -- Two or more members of this key: no order makes them one.
  next hnotNone hnotOne =>
    split
    next hnone =>
      rw [hnone] at hfound
      exact absurd hfound.eq_nil hnotNone
    next m hone =>
      rw [hone] at hfound
      exact absurd (List.perm_singleton.1 hfound) (hnotOne m)
    next => rfl

/-- Members with other keys do not matter. -/
theorem unique?_filter {keys : List String} (hkey : key ∈ keys) :
    unique? (members.filter (·.1 ∈ keys)) key = unique? members key := by
  have hsame : (members.filter (·.1 ∈ keys)).filter (·.1 == key) =
      members.filter (·.1 == key) := by
    rw [List.filter_filter]
    refine List.filter_congr ?_
    intro m _
    by_cases hm : m.1 = key
    · simp [hm, hkey]
    · simp [hm]
  rw [unique?, unique?, hsame]

/-- A key that has a value stands among the members once at most. -/
theorem count_le_one_of_unique? {found : Option Json} (h : unique? members key = some found) :
    (members.map Prod.fst).count key ≤ 1 := by
  have hcount : (members.map Prod.fst).count key = (members.filter (·.1 == key)).length := by
    rw [List.count, List.countP_map, List.countP_eq_length_filter]
    rfl
  rw [hcount]
  unfold unique? at h
  split at h
  next hnone => simp [hnone]
  next m hone => simp [hone]
  next => simp at h

/-- A member whose key stands only once is the one that is found. -/
theorem eq_some_of_unique? {found : Option Json} (h : unique? members key = some found) {v : Json}
    (hv : (key, v) ∈ members) : found = some v := by
  have hmem : (key, v) ∈ members.filter (·.1 == key) := by simp [hv]
  unfold unique? at h
  split at h
  next hnone => simp [hnone] at hmem
  next m hone =>
    obtain rfl : (key, v) = m := by simpa [hone] using hmem
    exact (Option.some.inj h).symm
  next => simp at h

theorem fields?_record {keys : List String} :
    (record members).fields? keys = keys.mapM (unique? members) := by
  simp [fields?, record, members?_map_some]

end Keys

/-- Members are named only if all their keys are texts. -/
theorem eq_map_some_of_members? {members : List (Option String × Json)}
    {named : List (String × Json)} (h : members? members = some named) :
    members = named.map fun m => (some m.1, m.2) := by
  fun_induction members? members generalizing named with
  | case1 =>
      obtain rfl := Option.some.inj h
      rfl
  | case2 value rest key later hlater ih =>
      obtain rfl := Option.some.inj h
      rw [ih hlater, List.map_cons]
  | case3 => simp at h

/-! ## Decoded values -/

theorem eq_bool_of_bool? {v : Json} {b : Bool} (h : v.bool? = some b) : v = bool b := by
  cases v with
  | bool b' =>
      obtain rfl := Option.some.inj h
      rfl
  | _ => simp [bool?] at h

theorem eq_text_of_text? {v : Json} {s : String} (h : v.text? = some s) : v = text s := by
  cases v with
  | str t =>
      obtain rfl : t = some s := h
      rfl
  | _ => simp [text?] at h

theorem eq_map_text_of_mapM {items : List Json} {l : List String} (h : items.mapM text? = some l) :
    items = l.map text := by
  induction items generalizing l with
  | nil =>
      obtain rfl : [] = l := by simpa using h
      rfl
  | cons v items ih =>
      simp only [List.mapM_cons, Option.bind_eq_bind, Option.bind_eq_some_iff, Option.pure_def,
        Option.some.injEq] at h
      rcases h with ⟨s, hs, later, hlater, rfl⟩
      rw [eq_text_of_text? hs, ih hlater, List.map_cons]

/-- Only an array of texts is read as a list of texts. -/
theorem eq_list_text_of_list? {v : Json} {l : List String} (h : v.list? text? = some l) :
    v = list text l := by
  cases v with
  | arr items => rw [eq_map_text_of_mapM h, list]
  | _ => simp [list?] at h

end Json

namespace Config

open Json

/-! ## Given options -/

/-- The options that a configuration gives; the others keep their defaults. -/
structure Settings where
  includeTests? : Option Bool
  parallel? : Option Bool
  exclude? : Option (List String)

namespace Settings

def members (given : Settings) : List (String × Json) :=
  (given.includeTests?.map fun b => ("include_tests", bool b)).toList ++
    ((given.parallel?.map fun b => ("parallel", bool b)).toList ++
      (given.exclude?.map fun l => ("exclude", list text l)).toList)

/-- The configuration with the options: without them no tests are loaded, packages may be surveyed
side by side, and nothing is left out. -/
def config (given : Settings) : Config :=
  { includeTests := given.includeTests?.getD false
    parallel := given.parallel?.getD true
    exclude := given.exclude?.getD [] }

end Settings

def Fits (key : String) (v : Json) : Prop :=
  if key = "exclude" then ∃ l, v = list text l else ∃ b, v = bool b

/-- Only the values of the known keys matter. -/
theorem ofJson?_record_congr {members members' : List (String × Json)}
    (h : ∀ key ∈ keys, unique? members key = unique? members' key) :
    ofJson? (record members) = ofJson? (record members') := by
  have hfields : keys.mapM (unique? members) = keys.mapM (unique? members') := by
    simp only [keys, List.forall_mem_cons] at h
    simp [keys, h]
  rw [ofJson?, ofJson?, fields?_record, fields?_record, hfields]

/-- The members that are written for given options are read as these options. -/
theorem ofJson?_settings (given : Settings) :
    ofJson? (record given.members) = some given.config := by
  have hlist (l : List String) : (list text l).list? text? = some l :=
    roundTrips_texts.decode_encode l
  rcases given with ⟨includeTests?, parallel?, exclude?⟩
  rw [ofJson?, fields?_record]
  cases includeTests? <;> cases parallel? <;> cases exclude? <;>
    simp [Settings.members, Settings.config, keys, unique?, option?, hlist]

/-- Known members in any order, among others that are not known, give the options. -/
theorem ofJson?_of_perm {members : List (String × Json)} {given : Settings}
    (h : (members.filter (·.1 ∈ keys)).Perm given.members) :
    ofJson? (record members) = some given.config := by
  rw [← ofJson?_settings]
  refine ofJson?_record_congr ?_
  intro key hkey
  rw [← unique?_filter hkey, unique?_of_perm h]

/-! ## What fails -/

theorem fits_of_bool? {key : String} (hkey : key ≠ "exclude") {v : Json} {b : Bool}
    (h : v.bool? = some b) : Fits key v := by
  rw [Fits, if_neg hkey]
  exact ⟨b, eq_bool_of_bool? h⟩

theorem fits_of_list? {v : Json} {l : List String} (h : v.list? text? = some l) :
    Fits "exclude" v := by
  rw [Fits, if_pos rfl]
  exact ⟨l, eq_list_text_of_list? h⟩

/-- An option that is read has a value of its kind, if it has one. -/
theorem fits_of_option? {key : String} {α : Type} {decode : Json → Option α} {default a : α}
    {found : Option Json} (hdecode : ∀ {v a}, decode v = some a → Fits key v)
    (h : option? decode default found = some a) : ∀ v ∈ found, Fits key v := by
  rintro v rfl
  exact hdecode h

/-- A configuration is read only from members whose keys are texts, and in which a known key has at
most one value, of its type. -/
theorem exists_of_ofJson?_obj {members : List (Option String × Json)} {c : Config}
    (h : ofJson? (obj members) = some c) :
    ∃ named : List (String × Json), members = named.map (fun m => (some m.1, m.2)) ∧
      ∀ key ∈ keys, ∃ found, unique? named key = some found ∧ ∀ v ∈ found, Fits key v := by
  unfold ofJson? at h
  split at h
  next includeTests parallel exclude hfields =>
    simp only [fields?, keys, List.mapM_cons, List.mapM_nil, Option.bind_eq_bind,
      Option.bind_eq_some_iff, Option.pure_def, Option.some.injEq, List.cons.injEq] at hfields
    rcases hfields with ⟨named, hnamed, _, hincludeTests, _,
      ⟨_, hparallel, _, ⟨_, hexclude, _, rfl, rfl⟩, rfl⟩, rfl, hvalues⟩
    simp only [List.cons.injEq, and_true] at hvalues
    rcases hvalues with ⟨rfl, rfl⟩
    simp only [Option.bind_eq_bind, Option.bind_eq_some_iff] at h
    rcases h with ⟨_, hdecodeTests, _, hdecodeParallel, _, hdecodeExclude, -⟩
    -- Each key was looked up, and each value that was found was decoded.
    refine ⟨named, eq_map_some_of_members? hnamed, ?_⟩
    simp only [keys, List.forall_mem_cons, List.not_mem_nil, false_implies, implies_true, and_true]
    exact ⟨⟨_, hincludeTests, fits_of_option? (fits_of_bool? (by decide)) hdecodeTests⟩,
      ⟨_, hparallel, fits_of_option? (fits_of_bool? (by decide)) hdecodeParallel⟩,
      ⟨_, hexclude, fits_of_option? fits_of_list? hdecodeExclude⟩⟩
  next => simp at h

/-- A known key that stands twice, or has a value that is not of its type, is an error. -/
theorem ofJson?_eq_none {members : List (Option String × Json)} {key : String} (hkey : key ∈ keys)
    (h : 2 ≤ (members.map Prod.fst).count (some key) ∨
      ∃ v, (some key, v) ∈ members ∧ ¬ Fits key v) : ofJson? (obj members) = none := by
  refine Option.eq_none_iff_forall_ne_some.2 ?_
  intro c hc
  rcases exists_of_ofJson?_obj hc with ⟨named, rfl, hnamed⟩
  rcases hnamed key hkey with ⟨found, hfound, hfits⟩
  rcases h with htwice | ⟨v, hv, hother⟩
  -- A key that comes twice has no value.
  · have htexts : (named.map fun m => (some m.1, m.2)).map Prod.fst =
        (named.map Prod.fst).map some := by simp [Function.comp_def]
    rw [htexts, List.count_map_of_injective _ some fun _ _ => Option.some.inj] at htwice
    have honce := count_le_one_of_unique? hfound
    omega
  -- A key that comes once has this value, which would have to be of its kind.
  · have hmem : (key, v) ∈ named := by simpa using hv
    exact hother (hfits v (eq_some_of_unique? hfound hmem))

/-! ## Texts -/

/-- A text is read as the document that it spells. -/
theorem parse?_of_isTextOf {v : Json} {s : String} (h : IsTextOf v s) : parse? s = ofJson? v := by
  rw [parse?, parse?_eq_some_of_isTextOf h, Option.bind_some]

/-- All options, as a configuration gives them when it is written. -/
def settings (c : Config) : Settings :=
  ⟨some c.includeTests, some c.parallel, some c.exclude⟩

theorem ofJson?_toJson (c : Config) : ofJson? c.toJson = some c :=
  ofJson?_settings c.settings

theorem natOnly_toJson (c : Config) : c.toJson.NatOnly := by
  have hexclude := roundTrips_texts.natOnly c.exclude
  refine natOnly_record ?_
  simp [hexclude]

/-- A text whose members are given options in any order, and any members with other keys, is read as
the configuration with these options. A known key that stands twice or has a value that is not of
its type is an error. In particular, every text of a configuration, the printed one among them, is
read as this configuration. -/
theorem reads_known_members :
    (∀ (given : Settings) (members : List (String × Json)) (s : String),
      IsTextOf (record members) s → (members.filter (·.1 ∈ keys)).Perm given.members →
        parse? s = some given.config) ∧
    (∀ (members : List (Option String × Json)) (s : String), IsTextOf (obj members) s →
      (∃ key ∈ keys, 2 ≤ (members.map Prod.fst).count (some key) ∨
        ∃ v, (some key, v) ∈ members ∧ ¬ Fits key v) →
        parse? s = none) ∧
    ∀ c : Config, parse? c.toJson.pretty = some c ∧ ∀ s, IsTextOf c.toJson s → parse? s = some c := by
  have hwritten : ∀ (c : Config) (s : String), IsTextOf c.toJson s → parse? s = some c := by
    intro c s hs
    rw [parse?_of_isTextOf hs, ofJson?_toJson]
  refine ⟨?_, ?_, ?_⟩
  · intro given members s hs hgiven
    rw [parse?_of_isTextOf hs, ofJson?_of_perm hgiven]
  · rintro members s hs ⟨key, hkey, h⟩
    rw [parse?_of_isTextOf hs, ofJson?_eq_none hkey h]
  · intro c
    exact ⟨hwritten c _ (isTextOf_pretty (natOnly_toJson c)), hwritten c⟩

/-- A text with spaces at odd places, an escaped key, and a member that is passed over. -/
def escapedText : String :=
  " \x7b\"x\":[-1.5E+3,\"\\uD83D\\uDE00\"],\n\"\\u0065xclude\" : [\"a\"]\x7d\n"

/-- The value that `escapedText` has for a key that is not known. -/
def otherValue : Json :=
  arr [number "-1.5E+3", text "😀"]

theorem spells_otherValue : Spells otherValue "[-1.5E+3,\"\\uD83D\\uDE00\"]".toList := by
  have hwhole : IsWhole ['1'] := .digits (by decide) (List.forall_mem_singleton.2 rfl)
  have hfraction : IsFraction ['.', '5'] := .digits ⟨by simp, List.forall_mem_singleton.2 rfl⟩
  have hexponent : IsExponent ('E' :: (['+'] ++ ['3'])) :=
    .digits (Or.inr rfl) (by simp) ⟨by simp, List.forall_mem_singleton.2 rfl⟩
  have hnumber : Spells (number "-1.5E+3") "-1.5E+3".toList := by
    have hliteral : ofLiteral "-1.5E+3".toList = number "-1.5E+3" := rfl
    rw [← hliteral]
    simpa using Spells.number (.parts (Or.inr rfl) hwhole hfraction hexponent)
  -- The two halves of a surrogate pair are two units of one character.
  have hunits : SpellsUnits "\\uD83D\\uDE00".toList [0xD83D, 0xDE00] := by
    simpa using SpellsUnits.cons (.code (by decide)) (.cons (.code (by decide)) .nil)
  have hpair : Spells (text "😀") "\"\\uD83D\\uDE00\"".toList :=
    .string (.text hunits (.pair rfl rfl .nil))
  have hitems : ∀ item ∈ [Spaced.bare "-1.5E+3".toList (number "-1.5E+3"),
      .bare "\"\\uD83D\\uDE00\"".toList (text "😀")], Spells item.value item.text :=
    List.forall_mem_cons.2 ⟨hnumber, List.forall_mem_singleton.2 hpair⟩
  exact Spells.array hitems isSpacing_nil

def escapedMembers : List Member :=
  [{ key := .bare "\"x\"".toList (some "x")
     value := .bare "[-1.5E+3,\"\\uD83D\\uDE00\"]".toList otherValue },
   { key := ⟨['\n'], "\"\\u0065xclude\"".toList, [' '], some "exclude", isSpacing_newline 0,
       isSpacing_blank⟩
     value := ⟨[' '], "[\"a\"]".toList, [], list text ["a"], isSpacing_blank, isSpacing_nil⟩ }]

/-- The text spells a record with one known member, in spite of its escapes and spaces. -/
theorem isTextOf_escapedText :
    IsTextOf (record [("x", otherValue), ("exclude", list text ["a"])]) escapedText := by
  have hunits : SpellsUnits "\\u0065xclude".toList ("exclude".toList.map Char.toNat) :=
    .cons (.code (by decide)) (spellsUnits_quoteChar "xclude".toList)
  have hkeys : ∀ m ∈ escapedMembers, SpellsString m.key.value m.key.text :=
    List.forall_mem_cons.2 ⟨spellsString_quote (some "x"),
      List.forall_mem_singleton.2 (.text hunits (combines_toNat "exclude".toList))⟩
  have hitems : ∀ item ∈ [Spaced.bare "\"a\"".toList (text "a")], Spells item.value item.text :=
    List.forall_mem_singleton.2 (.string (spellsString_quote (some "a")))
  have hvalues : ∀ m ∈ escapedMembers, Spells m.value.value m.value.text :=
    List.forall_mem_cons.2 ⟨spells_otherValue,
      List.forall_mem_singleton.2 (.array hitems isSpacing_nil)⟩
  exact ⟨⟨[' '], _, ['\n'], _, isSpacing_blank, isSpacing_newline 0⟩, rfl,
    .object hkeys hvalues isSpacing_nil, rfl⟩

/-- A text with an escaped key and an unknown member is read, one with a key that comes twice or
with null for a list is not. -/
theorem reads_known_members_escaped :
    (IsTextOf (record [("x", otherValue), ("exclude", list text ["a"])]) escapedText ∧
      parse? escapedText = some { exclude := ["a"] }) ∧
    parse? (record [("parallel", bool true), ("x", null), ("parallel", bool true)]).pretty = none ∧
    parse? (record [("exclude", null)]).pretty = none := by
  have htwice : NatOnly (record [("parallel", bool true), ("x", null), ("parallel", bool true)]) :=
    natOnly_record (by simp [NatOnly.null])
  have hnull : NatOnly (record [("exclude", null)]) := natOnly_record (by simp [NatOnly.null])
  refine ⟨⟨isTextOf_escapedText, ?_⟩, ?_, ?_⟩
  · exact reads_known_members.1 ⟨none, none, some ["a"]⟩ _ _ isTextOf_escapedText (.refl _)
  · exact reads_known_members.2.1 _ _ (isTextOf_pretty htwice)
      ⟨"parallel", by decide, Or.inl (by decide)⟩
  · exact reads_known_members.2.1 _ _ (isTextOf_pretty hnull)
      ⟨"exclude", by decide, Or.inr ⟨null, by simp, by simp [Fits, list]⟩⟩

end Config
end GoSurvey
