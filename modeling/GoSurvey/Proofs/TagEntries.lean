import GoSurvey.Proofs.Outcome
import GoSurvey.Tag

/-!
# The language of tag payloads

Decoding accepts exactly the payloads that spell a list of entries, and gives these entries back.

* `TagEntry.Spellable` — the entries that can be written in a payload;
* `Tag.readEntry_eq_ok_iff` — a token is an entry exactly if writing the entry gives the token;
* `Tag.readEntries_eq_ok_iff` — the same for whole payloads;
* `Tag.decode_inverts_encode` — decoding and encoding are inverse, and any other text is refused
  with a report of the whole of it.
-/

namespace GoSurvey

open Text

/-- An entry that can be written in a payload: its key ends at the first colon, and the entry at the
first space. -/
structure TagEntry.Spellable (e : TagEntry) : Prop where
  key_ne_empty : e.key ≠ ""
  colon_not_mem_key : ':' ∉ e.key.toList
  space_not_mem_key : ' ' ∉ e.key.toList
  space_not_mem_value : ' ' ∉ e.value.toList

instance (e : TagEntry) : Decidable e.Spellable :=
  decidable_of_iff
    (e.key ≠ "" ∧ ':' ∉ e.key.toList ∧ ' ' ∉ e.key.toList ∧ ' ' ∉ e.value.toList)
    ⟨fun ⟨hkey, hcolon, hspace, hvalue⟩ => ⟨hkey, hcolon, hspace, hvalue⟩,
      fun ⟨hkey, hcolon, hspace, hvalue⟩ => ⟨hkey, hcolon, hspace, hvalue⟩⟩

namespace Tag

open Outcome

variable {e : TagEntry} {entries : List TagEntry}

/-! ## One entry -/

/-- An entry is written with a colon at least. -/
theorem writeEntry_ne_nil (e : TagEntry) : writeEntry e ≠ [] := by
  simp [writeEntry]

/-- A token is an entry exactly if writing the entry gives the token. Spaces do not matter here:
they have been cut away before. -/
theorem readEntry_eq_ok_iff {token : List Char} :
    readEntry token = .ok e ↔ e.key ≠ "" ∧ ':' ∉ e.key.toList ∧ token = writeEntry e := by
  constructor
  · intro h
    unfold readEntry at h
    split at h
    · simp at h
    · split at h
      · simp at h
      next key quoted hcut =>
        split at h
        · simp at h
        next hkey =>
          split at h
          · simp at h
          next value hvalue =>
            have he : ⟨String.ofList key, String.ofList value⟩ = e := by simpa using h
            rcases cut?_eq_some_iff.1 hcut with ⟨hcolon, htoken⟩
            have hquoted := unwrap?_eq_some_iff.1 hvalue
            subst he
            refine ⟨?_, by simpa using hcolon, by simp [writeEntry, htoken, hquoted]⟩
            intro hempty
            exact hkey (by simpa using congrArg String.toList hempty)
  · intro h
    rcases h with ⟨hkey, hcolon, rfl⟩
    have hcut : cut? ':' (writeEntry e) =
        some (e.key.toList, '"' :: (e.value.toList ++ ['"'])) :=
      cut?_eq_some_iff.2 ⟨hcolon, by simp [writeEntry]⟩
    have hvalue : unwrap? '"' ('"' :: (e.value.toList ++ ['"'])) = some e.value.toList :=
      unwrap?_eq_some_iff.2 rfl
    have hkey' : e.key.toList ≠ [] := by simpa using hkey
    simp [readEntry, writeEntry_ne_nil, hcut, hvalue, hkey']

theorem space_not_mem_writeEntry :
    ' ' ∉ writeEntry e ↔ ' ' ∉ e.key.toList ∧ ' ' ∉ e.value.toList := by
  simp [writeEntry]

/-- A token between spaces is an entry exactly if the entry is spellable and is written so. -/
theorem readEntry_eq_ok_iff_spellable {token : List Char} (hspace : ' ' ∉ token) :
    readEntry token = .ok e ↔ e.Spellable ∧ token = writeEntry e := by
  rw [readEntry_eq_ok_iff]
  constructor
  · intro h
    rcases h with ⟨hkey, hcolon, rfl⟩
    rcases space_not_mem_writeEntry.1 hspace with ⟨hspaceKey, hspaceValue⟩
    exact ⟨⟨hkey, hcolon, hspaceKey, hspaceValue⟩, rfl⟩
  · intro h
    exact ⟨h.1.key_ne_empty, h.1.colon_not_mem_key, h.2⟩

/-! ## Whole payloads -/

/-- Tokens are entries, one by one, exactly if they are what the entries are written as. -/
theorem forall₂_readEntry_iff {tokens : List (List Char)} (hspace : ∀ token ∈ tokens, ' ' ∉ token) :
    List.Forall₂ (fun token e => readEntry token = .ok e) tokens entries ↔
      (∀ e ∈ entries, e.Spellable) ∧ tokens = entries.map writeEntry := by
  induction tokens generalizing entries with
  | nil =>
      cases entries with
      | nil => simp
      | cons e entries => simp
  | cons token tokens ih =>
      cases entries with
      | nil => simp
      | cons e entries =>
          have hfirst : readEntry token = .ok e ↔ e.Spellable ∧ token = writeEntry e :=
            readEntry_eq_ok_iff_spellable (hspace token List.mem_cons_self)
          have hlater : ∀ later ∈ tokens, ' ' ∉ later := fun later hmem =>
            hspace later (List.mem_cons_of_mem token hmem)
          simp only [List.forall₂_cons, hfirst, ih hlater, List.forall_mem_cons, List.map_cons,
            List.cons.injEq]
          exact and_and_and_comm

/-- A payload is read as the spellable entries whose texts make it up. -/
theorem readEntries_eq_ok_iff {payload : List Char} :
    readEntries payload = .ok entries ↔
      (∀ e ∈ entries, e.Spellable) ∧ joinWith ' ' (entries.map writeEntry) = payload := by
  unfold readEntries
  by_cases hempty : payload = []
  · -- No entry is written as nothing, so only the empty list spells the empty payload.
    subst hempty
    simp only [List.isEmpty_nil, if_true, Except.ok.injEq]
    constructor
    · rintro rfl
      simp [joinWith]
    · intro h
      rcases joinWith_eq_nil h.2 with hnone | hone
      · simpa using hnone.symm
      · rcases List.map_eq_singleton_iff.1 hone with ⟨e, -, he⟩
        exact absurd he (writeEntry_ne_nil e)
  · have htokens : ∀ token ∈ splitOn ' ' payload, ' ' ∉ token := fun token htoken =>
      not_mem_of_mem_splitOn htoken
    rw [if_neg (by simpa using hempty), mapM_eq_ok_iff, forall₂_readEntry_iff htokens]
    refine and_congr_right ?_
    intro hspellable
    constructor
    · intro hwritten
      rw [← hwritten, joinWith_splitOn]
    · rintro rfl
      refine splitOn_joinWith ?_ ?_
      · intro hnone
        exact hempty (by simp [hnone, joinWith])
      · intro token htoken
        rcases List.mem_map.1 htoken with ⟨e, he, rfl⟩
        exact space_not_mem_writeEntry.2
          ⟨(hspellable e he).space_not_mem_key, (hspellable e he).space_not_mem_value⟩

/-- A tag keeps the payload it was read from. -/
theorem decode_eq_ok_iff {raw : String} {tag : Tag} :
    decode raw = .ok tag ↔
      tag.raw = raw ∧ (∀ e ∈ tag.entries, e.Spellable) ∧ encode tag.entries = raw := by
  rcases tag with ⟨text, entries⟩
  have hentries : readEntries raw.toList = .ok entries ↔
      (∀ e ∈ entries, e.Spellable) ∧ encode entries = raw := by
    rw [readEntries_eq_ok_iff, encode, ← String.toList_inj, String.toList_ofList]
  unfold decode
  cases hread : readEntries raw.toList with
  | error fault =>
      have hnone : ¬ ((∀ e ∈ entries, e.Spellable) ∧ encode entries = raw) := by
        intro h
        simpa [hread] using hentries.2 h
      simp only [reduceCtorEq, false_iff]
      exact fun h => hnone h.2
  | ok found =>
      rw [hread, Except.ok.injEq] at hentries
      rw [← hentries]
      simp [eq_comm]

/-! ## Decoding and encoding -/

/-- Decoding gives back the entries that a payload was made from, in order and with repeated keys;
what it accepts is made from the entries it gives, in exactly one way; and a text that is made from
no entries is refused with a report that holds all of it. -/
theorem decode_inverts_encode :
    (∀ entries : List TagEntry, (∀ e ∈ entries, e.Spellable) →
      decode (encode entries) = .ok ⟨encode entries, entries⟩) ∧
    (∀ (raw : String) (tag : Tag), decode raw = .ok tag →
      tag.raw = raw ∧ (∀ e ∈ tag.entries, e.Spellable) ∧ encode tag.entries = raw) ∧
    (∀ raw : String,
      (¬ ∃ entries : List TagEntry, (∀ e ∈ entries, e.Spellable) ∧ encode entries = raw) →
      ∃ fault, decode raw = .error ⟨raw, fault⟩) := by
  refine ⟨?_, ?_, ?_⟩
  · intro entries hspellable
    exact decode_eq_ok_iff.2 ⟨rfl, hspellable, rfl⟩
  · intro raw tag hdecode
    exact decode_eq_ok_iff.1 hdecode
  · intro raw hnone
    cases hread : readEntries raw.toList with
    | error fault => exact ⟨fault, by simp [decode, hread]⟩
    | ok entries =>
        have hdecode : decode raw = .ok ⟨raw, entries⟩ := by simp [decode, hread]
        exact absurd ⟨entries, (decode_eq_ok_iff.1 hdecode).2⟩ hnone

/-- Entries with a repeated key, a value that is a single quote, one with a colon and a quote
inside, and one without characters; and a payload whose quote is not closed. -/
theorem decode_inverts_encode_quotes :
    (∀ e ∈ [TagEntry.mk "k" "\"", ⟨"k", "a:\"b"⟩, ⟨"x", ""⟩], e.Spellable) ∧
      decode "k:\"\"\" k:\"a:\"b\" x:\"\"" =
        .ok ⟨"k:\"\"\" k:\"a:\"b\" x:\"\"", [⟨"k", "\""⟩, ⟨"k", "a:\"b"⟩, ⟨"x", ""⟩]⟩ ∧
      ∃ fault, decode "k:\"" = .error ⟨"k:\"", fault⟩ := by
  have hspellable : ∀ e ∈ [TagEntry.mk "k" "\"", ⟨"k", "a:\"b"⟩, ⟨"x", ""⟩], e.Spellable := by
    decide +kernel
  have hrefused : decode "k:\"" = .error ⟨"k:\"", .unbalancedQuotes⟩ := by
    decide +kernel
  refine ⟨hspellable, decode_inverts_encode.1 _ hspellable, ?_⟩
  refine decode_inverts_encode.2.2 "k:\"" ?_
  intro h
  rcases h with ⟨entries, hentries, hraw⟩
  have haccepted := decode_inverts_encode.1 entries hentries
  rw [hraw, hrefused] at haccepted
  simp at haccepted

end Tag
end GoSurvey
