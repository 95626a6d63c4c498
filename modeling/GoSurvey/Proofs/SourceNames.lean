import GoSurvey.Proofs.SourceOrder

/-!
# Names in readings of types

A name in a type is a word of the source text. This file follows words from the tokens of a text
through its marks to the readings of types.

* `IsName` — the form of a word;
* `Token.Named`, `Mark.Named` — that all words among tokens or marks have this form;
* `Token.named_scan`, `Marks.named_ofTokens` — the tokens and marks of a text are such;
* `TypeReading.named_readAll` — a reader finds types whose names are words of its marks.
-/

namespace GoSurvey
namespace Source

/-! ## Words -/

/-- The form of a word: a character that starts one, and characters that go on with it. -/
def IsName (s : String) : Prop :=
  ∃ c rest, s.toList = c :: rest ∧ Token.startsWord c = true ∧
    ∀ d ∈ rest, Token.continuesWord d = true

def Token.Named (ts : List Token) : Prop :=
  ∀ t ∈ ts, t.kind = .word → IsName (String.ofList t.text)

def Mark.Named (ms : List Mark) : Prop :=
  ∀ m ∈ ms, ∀ w, m.sign = .word w → IsName w

namespace Token

/-- A lexeme that is a word has the form of a name. -/
theorem isName_of_lexeme {c : Char} {s : List Char} (h : (lexeme c s).1 = .word) :
    IsName (String.ofList (c :: s.take (lexeme c s).2)) := by
  unfold lexeme at h ⊢
  split at h
  · simp at h
  · split at h
    · simp at h
    · split at h
      next hnewline hspace hstarts =>
        simp only [hnewline, hspace, hstarts, if_false, if_true, Bool.false_eq_true]
        refine ⟨c, s.takeWhile continuesWord, ?_, hstarts, ?_⟩
        · have hprefix : s.takeWhile continuesWord <+: s := List.takeWhile_prefix _
          rw [String.toList_ofList, ← List.prefix_iff_eq_take.1 hprefix]
        · exact List.all_eq_true.1 List.all_takeWhile
      next =>
        -- No other token is a word.
        split at h
        · simp at h
        · split at h
          all_goals try split at h
          all_goals simp at h

/-- The words of a source are names. -/
theorem named_scanFrom (p : Place) (s : List Char) : Named (scanFrom p s) := by
  fun_induction scanFrom p s with
  | case1 => simp [Named]
  | case2 p c s kind size found text ih =>
      refine List.forall_mem_cons.2 ⟨?_, ih⟩
      intro hword
      have hname : IsName (String.ofList (c :: s.take (lexeme c s).2)) :=
        isName_of_lexeme (by simpa [found] using hword)
      rw [found] at hname
      exact hname

theorem named_scan (s : List Char) : Named (scan s) := by
  cases s with
  | nil => simp [Named, scan]
  | cons c s =>
      simp only [scan]
      split
      · exact List.forall_mem_cons.2 ⟨by simp, named_scanFrom _ _⟩
      · exact named_scanFrom _ _

theorem Named.mono {ts us : List Token} (h : Named us) (hsub : ts ⊆ us) : Named ts :=
  fun t ht => h t (hsub ht)

end Token

theorem Mark.Named.mono {ms ns : List Mark} (h : Named ns) (hsub : ms ⊆ ns) : Named ms :=
  fun m hm => h m (hsub hm)

/-! ## From tokens to marks -/

namespace Marking

/-- The words among the marks of all open texts have the form of words. -/
structure Named (s : Marking) : Prop where
  marks : Mark.Named s.marks
  outer : ∀ e ∈ s.outer, Mark.Named e.before

/-- Closing brackets puts no word outside. -/
theorem Named.close {s : Marking} (h : s.Named) : s.close.Named := by
  unfold Marking.close
  cases houter : s.outer with
  | nil => exact h
  | cons e outer =>
      have hparts := h.outer
      rw [houter, List.forall_mem_cons] at hparts
      refine ⟨?_, hparts.2⟩
      refine List.forall_mem_cons.2 ⟨?_, hparts.1⟩
      -- The text in brackets is one mark, which is no word.
      intro w hsign
      simp only [Gap.mark] at hsign
      split at hsign <;> simp at hsign

theorem Named.put {s : Marking} {t : Token} (h : s.Named)
    (ht : t.kind = .word → IsName (String.ofList t.text)) : (s.put (Sign.ofToken t)).Named := by
  refine ⟨List.forall_mem_cons.2 ⟨?_, h.marks⟩, h.outer⟩
  intro w hsign
  simp only [Gap.mark, Sign.ofToken] at hsign
  split at hsign
  next hkind =>
    cases hsign
    exact ht hkind
  all_goals simp at hsign

theorem Named.takeHidden {s : Marking} (h : s.Named) (gap : Gap) (depth : Nat) (t : Token) :
    (s.takeHidden gap depth t).Named := by
  unfold Marking.takeHidden
  split
  · exact ⟨h.marks, h.outer⟩
  · split
    · split
      · exact ⟨List.forall_mem_cons.2 ⟨by simp [Gap.mark], h.marks⟩, h.outer⟩
      · exact ⟨h.marks, h.outer⟩
    · exact h

/-- One token keeps the words of the marks names. -/
theorem Named.take {s : Marking} {t : Token} (h : s.Named)
    (ht : t.kind = .word → IsName (String.ofList t.text)) : (s.take t).Named := by
  unfold Marking.take
  split
  next gap depth _ => exact h.takeHidden gap depth t
  next =>
    split
    · exact ⟨h.marks, h.outer⟩
    · split
      · exact ⟨h.marks, h.outer⟩
      · split
        · exact ⟨by simp [Mark.Named], List.forall_mem_cons.2 ⟨h.marks, h.outer⟩⟩
        · split
          · exact h.close
          · exact h.put ht

theorem Named.foldl_take {ts : List Token} (hts : Token.Named ts) {s : Marking} (h : s.Named) :
    (ts.foldl Marking.take s).Named := by
  induction ts generalizing s with
  | nil => exact h
  | cons t ts ih =>
      have hparts := List.forall_mem_cons.1 hts
      exact ih hparts.2 (h.take hparts.1)

/-- Closing what is left open puts no word among the marks. -/
theorem Named.finish {s : Marking} (h : s.Named) : Mark.Named s.finish := by
  have hclosed : ∀ (outer : List Enclosure) (s : Marking), s.Named →
      (outer.foldl (fun s _ => s.close) s).Named := by
    intro outer
    induction outer with
    | nil => exact fun _ hs => hs
    | cons e outer ih => exact fun s hs => ih s.close hs.close
  unfold Marking.finish
  intro m hm
  refine (hclosed _ _ ?_).marks m (List.mem_reverse.1 hm)
  split
  · exact ⟨List.forall_mem_cons.2 ⟨by simp [Gap.mark], h.marks⟩, h.outer⟩
  · exact h

end Marking

/-- The words among the marks of a source are names. -/
theorem Marks.named_ofTokens {ts : List Token} (h : Token.Named ts) :
    Mark.Named (Marks.ofTokens ts) := by
  have hempty : Marking.empty.Named := ⟨by simp [Mark.Named, Marking.empty], by simp [Marking.empty]⟩
  exact (hempty.foldl_take h).finish

/-! ## Readings of types -/

/-- The names in the form of a type, behind pointers too, have the form of words. -/
def TypeForm.Named : TypeForm → Prop
  | name id => IsName id
  | qualified package id => IsName package ∧ IsName id
  | pointer _ target => target.Named
  | other _ => True

namespace TypeReading

/-- The heaviest reading is one of the readings. -/
theorem mem_of_heaviest {rs : List TypeReading} {r : TypeReading} (h : heaviest rs = some r) :
    r ∈ rs := by
  induction rs generalizing r with
  | nil => simp [heaviest] at h
  | cons first rs ih =>
      unfold heaviest at h
      cases hrest : heaviest rs with
      | none =>
          simp only [hrest, Option.some.injEq] at h
          simp [h]
      | some s =>
          simp only [hrest] at h
          split at h
          · cases h
            exact List.mem_cons_of_mem _ (ih hrest)
          · cases h
            exact List.mem_cons_self

def Named (rs : List TypeReading) : Prop :=
  ∀ r ∈ rs, r.form.Named

theorem named_nil : Named [] := by
  simp [Named]

theorem named_append {rs ss : List TypeReading} (hrs : Named rs) (hss : Named ss) :
    Named (rs ++ ss) := by
  intro r hr
  rcases List.mem_append.1 hr with hr | hr
  · exact hrs r hr
  · exact hss r hr

theorem named_singleton {r : TypeReading} (hr : r.form.Named) : Named [r] := by
  simpa [Named] using hr

/-- A type built around another has no name of its own. -/
theorem named_map_around {kind : TypeKind} {size : Nat} {weight : Weight}
    {rs : List TypeReading} : Named (rs.map (around kind size weight)) := by
  intro r hr
  rcases List.mem_map.1 hr with ⟨s, -, rfl⟩
  trivial

theorem named_generic {stop : Bool} {size : Nat} {weight : Weight} {ms : List Mark} :
    Named (generic stop size weight ms) := by
  intro r hr
  rcases Option.map_eq_some_iff.1 (Option.mem_toList.1 hr) with ⟨w, -, rfl⟩
  trivial

/-- The readings of a name are the name itself and, behind a point, the qualified one. -/
theorem named_named {stop : Bool} {id : String} {ms : List Mark} (hid : IsName id)
    (hms : Mark.Named ms) : Named (named stop id ms) := by
  have hplain : Named (generic stop 1 0 ms ++ [⟨.name id, 1, Weight.plainName⟩]) :=
    named_append named_generic (named_singleton hid)
  unfold named
  split
  next point member rest =>
    split
    next name hmember =>
      have hname : IsName name := hms member (by simp) name hmember
      split
      · exact named_append named_generic (named_singleton ⟨hid, hname⟩)
      · exact hplain
    next => exact hplain
  next => exact hplain

theorem subset_distinct (rs : List TypeReading) : distinct rs ⊆ rs := by
  induction rs with
  | nil => simp [distinct]
  | cons r rs ih =>
      simp only [distinct]
      split
      · exact fun s hs => List.mem_cons_of_mem r (ih hs)
      · intro s hs
        rcases List.mem_cons.1 hs with rfl | hs
        · exact List.mem_cons_self
        · exact List.mem_cons_of_mem r (ih (List.mem_filter.1 hs).1)

theorem named_negated {stop : Bool} {ms : List Mark} {rs : List TypeReading} :
    Named (negated stop ms rs) := by
  intro r hr
  refine named_append ?_ named_map_around r (subset_distinct _ hr)
  intro s hs
  rcases List.mem_flatMap.1 hs with ⟨inner, -, hs⟩
  exact named_generic s hs

theorem named_braced {kind : TypeKind} {ms : List Mark} : Named (braced kind ms) := by
  unfold braced
  split
  · exact named_nil
  · split
    · exact named_singleton trivial
    · exact named_nil

theorem named_function {stop : Bool} {ms : List Mark} {results : List TypeReading} {w : Weight} :
    Named (function stop ms results w) := by
  unfold function
  split
  · exact named_singleton trivial
  · split
    · exact named_singleton trivial
    · split
      · intro r hr
        rcases Option.map_eq_some_iff.1 (Option.mem_toList.1 hr) with ⟨v, -, rfl⟩
        trivial
      · exact named_map_around

/-- A reader finds types whose names are words of its marks. Only behind a star does it keep names
that it has found itself; all other types around a type leave no name in the form. -/
theorem named_readAll {stop mixed : Bool} {ms : List Mark} (hms : Mark.Named ms) :
    Named (readAll stop mixed ms) := by
  -- One mark decides the kind of type; the marks behind it are read by the induction hypothesis.
  induction ms generalizing mixed with
  | nil => simpa [readAll] using named_nil
  | cons m ms ih =>
      rcases List.forall_mem_cons.1 hms with ⟨hword, hrest⟩
      unfold readAll
      split
      next => -- a star
        intro r hr
        rcases List.mem_map.1 hr with ⟨s, hs, rfl⟩
        exact ih hrest s hs
      next => exact named_negated
      next => -- an arrow
        split
        · split
          · exact named_map_around
          · exact named_nil
        · exact named_nil
      next => -- parentheses
        intro r hr
        rcases Option.map_eq_some_iff.1 (Option.mem_toList.1 hr) with ⟨w, -, rfl⟩
        trivial
      next => -- square brackets
        split
        · exact named_map_around
        · split
          · exact named_map_around
          · exact named_nil
      next => exact named_braced
      next => exact named_braced
      next => -- a map
        split
        · exact named_nil
        · split
          · split
            · exact named_map_around
            · exact named_nil
          · exact named_nil
      next => -- a channel
        split
        · split
          · exact named_append named_map_around named_map_around
          · exact named_map_around
        · exact named_map_around
      next => -- a function
        split
        · exact named_nil
        · split
          · intro r hr
            rcases List.mem_flatMap.1 hr with ⟨w, -, hr⟩
            exact named_function r hr
          · exact named_nil
      next id _ _ _ _ _ hsign => -- a name
        split
        · exact named_nil
        · exact named_named (hword id hsign) hrest
      next => exact named_nil

/-- The reading that is chosen for a sole type has the names of the source. -/
theorem named_of_heaviest_sole {mixed : Bool} {ms : List Mark} {r : TypeReading}
    (hms : Mark.Named ms) (h : heaviest (sole mixed ms) = some r) : r.form.Named :=
  named_readAll hms r (List.mem_filter.1 (mem_of_heaviest h)).1

/-- The longest of some readings is one of them. -/
theorem mem_of_foldl_longest {rs : List TypeReading} {start : Option TypeReading} {r : TypeReading}
    (h : rs.foldl (fun best r =>
      match best with
      | none => some r
      | some b => if b.size < r.size then some r else some b) start = some r) :
    start = some r ∨ r ∈ rs := by
  induction rs generalizing start with
  | nil => exact Or.inl h
  | cons s rs ih =>
      rcases ih h with hstart | hrest
      · cases start with
        | none =>
            cases hstart
            exact Or.inr List.mem_cons_self
        | some b =>
            simp only at hstart
            split at hstart
            · cases hstart
              exact Or.inr List.mem_cons_self
            · exact Or.inl hstart
      · exact Or.inr (List.mem_cons_of_mem s hrest)

theorem named_of_choose {stop : Bool} {fits : List Mark → Bool} {ms : List Mark} {r : TypeReading}
    (hms : Mark.Named ms) (h : choose stop fits ms = some r) : r.form.Named := by
  have hall : Named (readAll stop false ms) := named_readAll hms
  refine hall r ?_
  rcases Option.or_eq_some_iff.1 h with hfits | ⟨-, hlongest⟩
  · exact (List.mem_filter.1 (mem_of_heaviest hfits)).1
  · rcases mem_of_foldl_longest hlongest with hnone | hmem
    · simp at hnone
    · exact hmem

end TypeReading

end Source
end GoSurvey
