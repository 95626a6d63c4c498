import Mathlib.Data.List.Induction
import GoSurvey.Extract.Types
import GoSurvey.Source.Token
import GoSurvey.Text.Utf8

/-!
# Places as positions of bytes

A place counts bytes, rows and bytes of a row while the characters of a text are read one by one. This
file ties the three counts to the bytes of the text.

* `Text.newline_not_mem_utf8EncodeChar` — a newline byte stands for a newline and nothing else;
* `Source.Place.LeadsTo`, `Source.Place.leadsTo_after` — what the counts are after some characters;
* `Source.Place.StandsIn`, `Source.Token.exists_split_of_mem_scan` — the places of a text, and where a
  token stands in it;
* `Model.Position.IsTrueIn`, `Model.Position.isTrueIn_ofPlace` — a reported position tells how many
  bytes stand before it, on how many rows, and how many of them on the last row.
-/

namespace GoSurvey

/-! ## Rows of bytes -/

namespace Text

def newline : UInt8 := 10

def lastRow (bytes : List UInt8) : List UInt8 :=
  (bytes.reverse.takeWhile (· != newline)).reverse

/-- No character but the newline has the byte of a newline in its encoding. -/
theorem newline_not_mem_utf8EncodeChar {c : Char} (hc : c ≠ '\n') :
    newline ∉ String.utf8EncodeChar c := by
  have hval : c.val.toNat ≠ 10 := by
    intro h
    exact hc (Char.ext (UInt32.toNat_inj.1 h))
  have hbyte : ∀ n, n < 256 → n ≠ 10 → newline ≠ UInt8.ofNat n := by
    intro n hn hne h
    have hnat := congrArg UInt8.toNat h
    simp only [newline, UInt8.toNat_ofNat'] at hnat
    exact hne ((Nat.mod_eq_of_lt hn).symm.trans hnat.symm)
  -- Outside of ASCII every byte of a character is at least 128.
  intro hmem
  simp only [String.utf8EncodeChar] at hmem
  split at hmem
  · rw [List.mem_singleton] at hmem
    exact hbyte _ (by omega) hval hmem
  · split at hmem
    · simp only [List.mem_cons, List.not_mem_nil, or_false] at hmem
      rcases hmem with h | h
      all_goals exact hbyte _ (by omega) (by omega) h
    · split at hmem
      · simp only [List.mem_cons, List.not_mem_nil, or_false] at hmem
        rcases hmem with h | h | h
        all_goals exact hbyte _ (by omega) (by omega) h
      · simp only [List.mem_cons, List.not_mem_nil, or_false] at hmem
        rcases hmem with h | h | h | h
        all_goals exact hbyte _ (by omega) (by omega) h

theorem lastRow_newline (bytes : List UInt8) : lastRow (bytes ++ [newline]) = [] := by
  simp [lastRow]

theorem length_lastRow_le (bytes : List UInt8) : (lastRow bytes).length ≤ bytes.length := by
  have h : (bytes.reverse.takeWhile (· != newline)).length ≤ bytes.reverse.length :=
    (List.takeWhile_sublist _).length_le
  simpa [lastRow] using h

/-- Bytes without a newline lengthen the last row. -/
theorem lastRow_append {more : List UInt8} (h : newline ∉ more) (bytes : List UInt8) :
    lastRow (bytes ++ more) = lastRow bytes ++ more := by
  have hall : ∀ b ∈ more.reverse, (b != newline) = true := by
    intro b hb
    simp only [bne_iff_ne, ne_eq]
    rintro rfl
    exact h (List.mem_reverse.1 hb)
  rw [lastRow, List.reverse_append, List.takeWhile_append_of_pos hall]
  simp [lastRow]

end Text

/-! ## Places -/

namespace Source

open Text

namespace Place

/-- Whether the bytes lead from the start of a text to the place. -/
structure LeadsTo (bytes : List UInt8) (p : Place) : Prop where
  offset : p.offset = bytes.length
  row : p.row = bytes.count newline
  column : p.column = (lastRow bytes).length

/-- A place counts the bytes of one more character. -/
theorem LeadsTo.next {bytes : List UInt8} {p : Place} (h : LeadsTo bytes p) (c : Char) :
    LeadsTo (bytes ++ String.utf8EncodeChar c) (p.next c) := by
  unfold Place.next
  split
  next hnewline =>
    -- A newline is one byte; it begins a row.
    have hbytes : String.utf8EncodeChar c = [newline] := by
      rw [hnewline]
      decide
    rw [hbytes]
    exact ⟨by simp [h.offset], by simp [h.row], by simp [lastRow_newline]⟩
  next hother =>
    -- Any other character is counted into the row by all of its bytes.
    have hnone := newline_not_mem_utf8EncodeChar hother
    refine ⟨?_, ?_, ?_⟩
    · simp [h.offset, String.length_utf8EncodeChar]
    · simp [h.row, List.count_eq_zero.2 hnone]
    · simp [h.column, lastRow_append hnone, String.length_utf8EncodeChar]

/-- The place after some characters is the one that their bytes lead to. -/
theorem leadsTo_after (s : List Char) :
    LeadsTo (s.flatMap String.utf8EncodeChar) (origin.after s) := by
  induction s using List.reverseRecOn with
  | nil => exact ⟨rfl, rfl, rfl⟩
  | append_singleton s c ih =>
      rw [after_append, List.flatMap_append]
      simpa [after] using ih.next c

/-- Whether a text can be cut at the place. At its very end nothing starts, unless it is empty. -/
def StandsIn (s : List Char) (p : Place) : Prop :=
  ∃ before after, s = before ++ after ∧ p = origin.after before ∧ (after = [] → before = [])

theorem standsIn_origin (s : List Char) : StandsIn s origin :=
  ⟨[], s, rfl, rfl, fun _ => rfl⟩

end Place

namespace Token

theorem text_ne_nil_of_mem_scanFrom {p : Place} {s : List Char} {t : Token}
    (h : t ∈ scanFrom p s) : t.text ≠ [] := by
  fun_induction scanFrom p s with
  | case1 => simp at h
  | case2 p c s kind size found text ih =>
      rcases List.mem_cons.1 h with rfl | h
      · exact List.cons_ne_nil c _
      · exact ih h

theorem text_ne_nil_of_mem_scan {s : List Char} {t : Token} (h : t ∈ scan s) : t.text ≠ [] := by
  cases s with
  | nil => simp [scan] at h
  | cons c s =>
      simp only [scan] at h
      split at h
      · rcases List.mem_cons.1 h with rfl | h
        · exact List.cons_ne_nil c []
        · exact text_ne_nil_of_mem_scanFrom h
      · exact text_ne_nil_of_mem_scanFrom h

/-- Each token starts at the place that the texts of the tokens before it lead to. -/
theorem scan_start {s : List Char} {before later : List Token} {t : Token}
    (h : scan s = before ++ t :: later) :
    t.start = Place.origin.after (before.flatMap (·.text)) := by
  cases s with
  | nil => simp [scan] at h
  | cons c s =>
      simp only [scan] at h
      split at h
      · -- The byte order mark is a token before all others.
        cases before with
        | nil =>
            obtain ⟨rfl, -⟩ := List.cons.inj h
            rfl
        | cons first rest =>
            obtain ⟨rfl, hrest⟩ := List.cons.inj h
            rw [scanFrom_start hrest, List.flatMap_cons, Place.after_append]
            rfl
      · exact scanFrom_start h

/-- A token stands in the text at the place where it starts, and is not empty. -/
theorem exists_split_of_mem_scan {s : List Char} {t : Token} (h : t ∈ scan s) :
    ∃ before after, s = before ++ (t.text ++ after) ∧ t.start = Place.origin.after before ∧
      t.text ≠ [] := by
  rcases List.append_of_mem h with ⟨before, later, hscan⟩
  refine ⟨before.flatMap (·.text), later.flatMap (·.text), ?_, scan_start hscan,
    text_ne_nil_of_mem_scan h⟩
  rw [← scan_text s, hscan, List.flatMap_append, List.flatMap_cons]

/-- A token starts at a place of its source. -/
theorem standsIn_of_mem_scan {s : List Char} {t : Token} (h : t ∈ scan s) :
    t.start.StandsIn s := by
  rcases exists_split_of_mem_scan h with ⟨before, after, hs, hstart, htext⟩
  refine ⟨before, t.text ++ after, hs, hstart, ?_⟩
  intro hnil
  exact absurd (List.append_eq_nil_iff.1 hnil).1 htext

end Token
end Source

/-! ## Reported positions -/

namespace Model.Position

open Text Source

/-- Whether a position is one of the bytes of a text: its line counts the newlines before it, and its
column the bytes after the last of them. -/
structure IsTrueIn (bytes : List UInt8) (pos : Position) : Prop where
  offset_le : pos.offset.toNat ≤ bytes.length
  line : pos.line.toNat = (bytes.take pos.offset.toNat).count newline + 1
  column : pos.column.toNat = (lastRow (bytes.take pos.offset.toNat)).length

def Spells (bytes : List UInt8) (word : String) (pos : Position) : Prop :=
  utf8 word <+: bytes.drop pos.offset.toNat

section Fits

variable {source : String} {p : Place} (hsize : (utf8 source).length < UInt32.size)

include hsize

/-- The counts of a place in a text of less than 2^32 bytes fit into a position. -/
theorem toNat_ofPlace (h : p.StandsIn source.toList) :
    (ofPlace p).line.toNat = p.row + 1 ∧ (ofPlace p).column.toNat = p.column ∧
      (ofPlace p).offset.toNat = p.offset := by
  rcases h with ⟨before, after, hsource, rfl, hend⟩
  have hplace := Place.leadsTo_after before
  have hrow := List.count_le_length (a := newline) (l := before.flatMap String.utf8EncodeChar)
  have hcolumn := length_lastRow_le (before.flatMap String.utf8EncodeChar)
  rw [utf8_eq_flatMap, hsource, List.flatMap_append, List.length_append, UInt32.size] at hsize
  -- Lines count from one, so one byte has to be left behind the place, or none before it.
  have hroom : (before.flatMap String.utf8EncodeChar).length = 0 ∨
      0 < (after.flatMap String.utf8EncodeChar).length := by
    cases after with
    | nil => simp [hend rfl]
    | cons c rest =>
        have hpos := Char.utf8Size_pos c
        rw [List.flatMap_cons, List.length_append, String.length_utf8EncodeChar]
        omega
  simp only [ofPlace, hplace.row, hplace.column, hplace.offset, Nat.toUInt32_eq,
    UInt32.toNat_ofNat']
  refine ⟨?_, ?_, ?_⟩
  all_goals
    rw [Nat.mod_eq_of_lt]
    omega

/-- The position that is reported for a place of a text tells lines, columns and bytes rightly. -/
theorem isTrueIn_ofPlace (h : p.StandsIn source.toList) :
    (ofPlace p).IsTrueIn (utf8 source) := by
  rcases toNat_ofPlace hsize h with ⟨hline, hcolumn, hoffset⟩
  rcases h with ⟨before, after, hsource, rfl, -⟩
  have hplace := Place.leadsTo_after before
  have hbytes : utf8 source =
      before.flatMap String.utf8EncodeChar ++ after.flatMap String.utf8EncodeChar := by
    rw [utf8_eq_flatMap, hsource, List.flatMap_append]
  -- Before the byte that the position tells stands what stands before the place.
  have hbefore : (utf8 source).take (ofPlace (Place.origin.after before)).offset.toNat =
      before.flatMap String.utf8EncodeChar := by
    rw [hoffset, hplace.offset, hbytes, List.take_left]
  refine ⟨?_, ?_, ?_⟩
  · rw [hoffset, hplace.offset, hbytes, List.length_append]
    exact Nat.le_add_right _ _
  · rw [hbefore, hline, hplace.row]
  · rw [hbefore, hcolumn, hplace.column]

end Fits

/-- The text of a token stands at the position of the token. -/
theorem spells_ofPlace {source : String} (hsize : (utf8 source).length < UInt32.size) {t : Token}
    (ht : t ∈ Token.scan source.toList) :
    (ofPlace t.start).Spells (utf8 source) (String.ofList t.text) := by
  have hoffset := (toNat_ofPlace hsize (Token.standsIn_of_mem_scan ht)).2.2
  rcases Token.exists_split_of_mem_scan ht with ⟨before, after, hsource, hstart, -⟩
  refine ⟨after.flatMap String.utf8EncodeChar, ?_⟩
  rw [hoffset, hstart, (Place.leadsTo_after before).offset, utf8_eq_flatMap source, hsource,
    List.flatMap_append, List.drop_left, List.flatMap_append, utf8_eq_flatMap, String.toList_ofList]

end Model.Position
end GoSurvey
