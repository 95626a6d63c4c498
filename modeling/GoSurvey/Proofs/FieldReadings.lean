import GoSurvey.Proofs.DeclarationNames

/-!
# Where fields are read

The fields of a struct are chosen among many readings of its marks. This file says of each chosen
field where in the struct it stands, and what its type can be.

* `TypeReading.readAll_cases` — a type is a pointer only behind a star;
* `FieldReading.hasTypeIn_of_mem_readAll` — the type of a named field, and that of an embedded one;
* `FieldReading.readFrom_readList` — each field of a struct is read at the mark at which it starts;
* `Field.exists_of_mem_readAll` — so is each field of the outline.
-/

namespace GoSurvey
namespace Source

/-! ## Readings of types -/

/-- Whether a type can be embedded, behind a star or not: a name, a name of another package, or one
with type arguments. -/
def TypeForm.isEmbeddable : TypeForm → Bool
  | name _ | qualified _ _ | other .generic => true
  | _ => false

namespace TypeReading

def IsPlain (r : TypeReading) : Prop :=
  ∀ commented target, r.form ≠ .pointer commented target

/-- A type that another one ends is no pointer. -/
theorem isPlain_around {kind : TypeKind} {size : Nat} {weight : Weight} {rs : List TypeReading}
    {r : TypeReading} (hr : r ∈ rs.map (around kind size weight)) : r.IsPlain := by
  rcases List.mem_map.1 hr with ⟨s, -, rfl⟩
  simp [IsPlain, around]

/-- Type arguments make a type generic. -/
theorem form_of_mem_generic {stop : Bool} {size : Nat} {weight : Weight} {ms : List Mark}
    {r : TypeReading} (hr : r ∈ generic stop size weight ms) : r.form = .other .generic := by
  rcases Option.map_eq_some_iff.1 (Option.mem_toList.1 hr) with ⟨w, -, rfl⟩
  rfl

/-- A type that starts with a name is one that can be embedded. -/
theorem embeddable_of_mem_named {stop : Bool} {id : String} {ms : List Mark} {r : TypeReading}
    (hr : r ∈ named stop id ms) : r.form.isEmbeddable = true := by
  -- Type arguments make a generic type, and without them the last reading is left.
  have hplain : ∀ {size : Nat} {ms : List Mark} {last : TypeReading},
      last.form.isEmbeddable = true → ∀ r ∈ generic stop size 0 ms ++ [last],
        r.form.isEmbeddable = true := by
    intro size ms last hlast r hr
    rcases List.mem_append.1 hr with hr | hr
    · rw [form_of_mem_generic hr]
      rfl
    · obtain rfl := List.mem_singleton.1 hr
      exact hlast
  unfold named at hr
  split at hr
  next point member rest =>
    split at hr
    · split at hr
      · exact hplain rfl r hr
      · exact hplain rfl r hr
    · exact hplain rfl r hr
  next => exact hplain rfl r hr

/-- What can be embedded without a star is no pointer. -/
theorem isPlain_of_isEmbeddable {r : TypeReading} (h : r.form.isEmbeddable = true) :
    r.IsPlain := by
  intro commented target hpointer
  simp [hpointer, TypeForm.isEmbeddable] at h

theorem isPlain_negated {stop : Bool} {ms : List Mark} {rs : List TypeReading} {r : TypeReading}
    (hr : r ∈ negated stop ms rs) : r.IsPlain := by
  rcases List.mem_append.1 (subset_distinct _ hr) with hr | hr
  · rcases List.mem_flatMap.1 hr with ⟨inner, -, hr⟩
    simp [IsPlain, form_of_mem_generic hr]
  · exact isPlain_around hr

theorem isPlain_braced {kind : TypeKind} {ms : List Mark} {r : TypeReading}
    (hr : r ∈ braced kind ms) : r.IsPlain := by
  unfold braced at hr
  split at hr
  · simp at hr
  · split at hr
    · obtain rfl := List.mem_singleton.1 hr
      simp [IsPlain]
    · simp at hr

theorem isPlain_function {stop : Bool} {ms : List Mark} {results : List TypeReading} {w : Weight}
    {r : TypeReading} (hr : r ∈ function stop ms results w) : r.IsPlain := by
  unfold function at hr
  -- No result, a name that cannot be one, or a result: none of them makes a pointer.
  split at hr
  · obtain rfl := List.mem_singleton.1 hr
    simp [IsPlain]
  · split at hr
    · obtain rfl := List.mem_singleton.1 hr
      simp [IsPlain]
    · split at hr
      · rcases Option.map_eq_some_iff.1 (Option.mem_toList.1 hr) with ⟨v, -, rfl⟩
        simp [IsPlain]
      · exact isPlain_around hr

/-- A type is a pointer if it is read behind a star, and no pointer otherwise. -/
theorem readAll_cases {stop mixed : Bool} {ms : List Mark} {r : TypeReading}
    (hr : r ∈ readAll stop mixed ms) :
    r.IsPlain ∨ ∃ m rest s, ms = m :: rest ∧ m.sign = .symbol '*' ∧
      s ∈ readAll stop mixed rest ∧ r = pointer rest s := by
  cases ms with
  | nil => simp [readAll] at hr
  | cons m ms =>
      unfold readAll at hr
      split at hr
      next hsign => -- a star
        rcases List.mem_map.1 hr with ⟨s, hs, rfl⟩
        exact Or.inr ⟨m, ms, s, rfl, hsign, hs, rfl⟩
      all_goals left
      next => exact isPlain_negated hr
      next => -- an arrow
        split at hr
        · split at hr
          · exact isPlain_around hr
          · simp at hr
        · simp at hr
      next => -- parentheses
        rcases Option.map_eq_some_iff.1 (Option.mem_toList.1 hr) with ⟨w, -, rfl⟩
        simp [IsPlain]
      next => -- square brackets
        split at hr
        · exact isPlain_around hr
        · split at hr
          · exact isPlain_around hr
          · simp at hr
      next => exact isPlain_braced hr
      next => exact isPlain_braced hr
      next => -- a map
        split at hr
        · simp at hr
        · split at hr
          · split at hr
            · exact isPlain_around hr
            · simp at hr
          · simp at hr
      next => -- a channel
        split at hr
        · split at hr
          · rcases List.mem_append.1 hr with hr | hr
            · exact isPlain_around hr
            · exact isPlain_around hr
          · exact isPlain_around hr
        · exact isPlain_around hr
      next => -- a function
        split at hr
        · simp at hr
        · split at hr
          · rcases List.mem_flatMap.1 hr with ⟨w, -, hr⟩
            exact isPlain_function hr
          · simp at hr
      next => -- a name
        split at hr
        · simp at hr
        · exact isPlain_of_isEmbeddable (embeddable_of_mem_named hr)
      next => simp at hr

end TypeReading

/-! ## Readings of fields -/

namespace FieldReading

/-- Completing a declaration keeps names, type and place. -/
theorem parts_of_complete {names : List String} {star : Bool} {typeStart : Nat} {ms : List Mark}
    {r : TypeReading} {f : FieldReading} (h : complete names star typeStart ms r = some f) :
    f.names = names ∧ f.typeStart = typeStart ∧ f.type = r := by
  rcases Option.ite_none_right_eq_some.1 h with ⟨-, hsome⟩
  cases hsome
  exact ⟨rfl, rfl, rfl⟩

/-- What the type of a field can be: that of a named field is any type that starts where it should,
that of an embedded field is one that can be embedded. -/
def HasTypeIn (ms : List Mark) (f : FieldReading) : Prop :=
  (f.names ≠ [] ∧ f.type ∈ TypeReading.readAll true false (ms.drop f.typeStart)) ∨
    (f.names = [] ∧ f.type.form.isEmbeddable = true)

section Embedded

variable {star : Bool} {typeStart : Nat} {ms : List Mark} {f : FieldReading}

/-- The type of an embedded field stands behind its star, if it has one. -/
theorem hasTypeIn_of_embeddedTypes {id : String} {later : List Mark}
    (hf : f ∈ (embeddedTypes star id later).filterMap (complete [] star typeStart ms)) :
    f.HasTypeIn ms := by
  rcases List.mem_filterMap.1 hf with ⟨r, hr, hcomplete⟩
  rcases parts_of_complete hcomplete with ⟨hnames, -, htype⟩
  rcases exists_of_mem_embeddedTypes hr with ⟨s, hs, hform⟩
  refine Or.inr ⟨hnames, ?_⟩
  rw [htype, hform]
  exact TypeReading.embeddable_of_mem_named hs

theorem hasTypeIn_of_embeddedAfterTilde {later : List Mark}
    (hf : f ∈ (embeddedAfterTilde later).filterMap (complete [] star typeStart ms)) :
    f.HasTypeIn ms := by
  rcases List.mem_filterMap.1 hf with ⟨r, hr, hcomplete⟩
  rcases parts_of_complete hcomplete with ⟨hnames, -, htype⟩
  have hform : r.form = .other .generic := by simpa using (List.mem_filter.1 hr).2
  refine Or.inr ⟨hnames, ?_⟩
  rw [htype, hform]
  rfl

end Embedded

/-- The type of every reading of a field stands where the reading tells. -/
theorem hasTypeIn_of_mem_readAll {ms : List Mark} {f : FieldReading} (hf : f ∈ readAll ms) :
    f.HasTypeIn ms := by
  unfold readAll at hf
  split at hf
  · simp at hf
  next m rest =>
    split at hf
    · -- a star
      split at hf
      · simp at hf
      next n later =>
        split at hf
        · exact hasTypeIn_of_embeddedTypes hf
        · exact hasTypeIn_of_embeddedAfterTilde hf
        · simp at hf
    · -- a tilde
      exact hasTypeIn_of_embeddedAfterTilde hf
    next id hsign => -- a name
      split at hf
      · exact hasTypeIn_of_embeddedTypes hf
      · split at hf
        · exact hasTypeIn_of_embeddedTypes hf
        · rcases List.mem_append.1 hf with hf | hf
          · rcases List.mem_filterMap.1 hf with ⟨r, hr, hcomplete⟩
            rcases parts_of_complete hcomplete with ⟨hnames, hstart, htype⟩
            refine Or.inl ⟨by simp [hnames], ?_⟩
            rw [htype, hstart]
            exact hr
          · exact hasTypeIn_of_embeddedTypes hf
    · simp at hf

/-! ## The fields of a struct -/

/-- Fields that are read from the ends of a list of marks, each from the end that it starts, and one
after the other. -/
structure Fields.ReadFrom (ms : List Mark) (fs : Fields) : Prop where
  read : ∀ e ∈ fs.list, e.1 ≤ ms.length ∧ e.2 ∈ readAll (ms.drop (ms.length - e.1))
  inOrder : fs.list.Pairwise fun e later => later.1 < e.1

theorem Fields.readFrom_nil {ms : List Mark} {weight : Weight} :
    Fields.ReadFrom ms ⟨weight, []⟩ :=
  ⟨by simp, List.Pairwise.nil⟩

theorem Fields.ReadFrom.tail {m : Mark} {ms : List Mark} {fs : Fields} (h : fs.ReadFrom ms) :
    fs.ReadFrom (m :: ms) where
  read := by
    intro e he
    rcases h.read e he with ⟨hle, hread⟩
    refine ⟨Nat.le_succ_of_le hle, ?_⟩
    rw [List.length_cons, Nat.succ_sub hle, List.drop_succ_cons]
    exact hread
  inOrder := h.inOrder

/-- A field before others that are in order is in order with them. -/
theorem Fields.ReadFrom.cons {m : Mark} {ms : List Mark} {fs : Fields} {f : FieldReading}
    (h : fs.ReadFrom ms) (hf : f ∈ readAll (m :: ms)) :
    (fs.cons (ms.length + 1) f).ReadFrom (m :: ms) where
  read := by
    refine List.forall_mem_cons.2 ⟨⟨Nat.le_refl _, ?_⟩, h.tail.read⟩
    rw [List.length_cons, Nat.sub_self]
    exact hf
  inOrder := by
    refine List.Pairwise.cons ?_ h.inOrder
    intro e he
    exact Nat.lt_succ_of_le (h.read e he).1

/-- The fields that are read from a mark on stand in the marks and in order, if those of all later
marks do. -/
theorem readFrom_readEnd {isFirst : Bool} {m : Mark} {ms : List Mark} {later : List Fields}
    (hlater : ∀ fs ∈ later, fs.ReadFrom ms) :
    (readEnd isFirst (ms.length + 1) (m :: ms) later).ReadFrom (m :: ms) := by
  -- The fields behind one that takes `n` marks are those of the end that it leaves.
  have hafter : ∀ n, ((later.drop (n - 1)).head?.getD ⟨0, []⟩).ReadFrom ms := by
    intro n
    cases hhead : (later.drop (n - 1)).head? with
    | none => exact Fields.readFrom_nil
    | some fs => exact hlater fs (List.mem_of_mem_drop (List.mem_of_head? hhead))
  cases hmap : (readAll (m :: ms)).map fun f =>
      ((later.drop (f.size - 1)).head?.getD ⟨0, []⟩).cons (ms.length + 1) f with
  | cons first more =>
      simp only [readEnd, hmap]
      -- One of the readings of the first field wins.
      have hmem := foldl_better_mem isFirst first more
      rw [← hmap] at hmem
      rcases List.mem_map.1 hmem with ⟨f, hf, heq⟩
      rw [← heq]
      exact (hafter f.size).cons hf
  | nil =>
      simp only [readEnd, hmap]
      -- The mark is passed over, and the fields of the next end stay.
      split
      · exact (hafter 1).tail
      · exact ⟨(hafter 1).tail.read, (hafter 1).inOrder⟩

/-- The pass counts the marks that it has gone through. -/
theorem length_foldr_readBack (count : Nat) (ms : List Mark) :
    (ms.foldr (readBack count) (0, [], [⟨0, []⟩])).1 = ms.length := by
  induction ms with
  | nil => rfl
  | cons m ms ih => exact congrArg (· + 1) ih

/-- The fields of every end of a list stand in the list and in order. -/
theorem readFrom_readEnds (count : Nat) (ms : List Mark) :
    ∀ fs ∈ readEnds count ms, fs.ReadFrom ms := by
  rw [readEnds_eq_foldr]
  induction ms with
  | nil => simpa using Fields.readFrom_nil
  | cons m ms ih =>
      refine List.forall_mem_cons.2 ⟨?_, fun fs hfs => (ih fs hfs).tail⟩
      rw [marks_foldr_readBack, length_foldr_readBack]
      exact readFrom_readEnd ih

/-- Each field of a struct is read at the mark at which it starts, and the fields stand one after the
other. -/
theorem readFrom_readList (ms : List Mark) :
    (∀ e ∈ readList ms, e.2 ∈ readAll (ms.drop e.1)) ∧
      (readList ms).Pairwise fun e later => e.1 < later.1 := by
  cases hends : readEnds ms.length ms with
  | nil => simp [readList, hends]
  | cons fields more =>
      have hread : fields.ReadFrom ms := readFrom_readEnds ms.length ms fields (by simp [hends])
      simp only [readList, hends, List.mem_map, List.pairwise_map]
      constructor
      · rintro e ⟨entry, hentry, rfl⟩
        exact (hread.read entry hentry).2
      · refine hread.inOrder.imp_of_mem ?_
        intro entry later hentry hlater hlt
        have := (hread.read entry hentry).1
        omega

end FieldReading

/-! ## Fields of the outline -/

/-- Leaving out pieces twice is leaving out as many as both times together. -/
theorem Passage.drop_drop (p : Passage) (n k : Nat) : (p.drop n).drop k = p.drop (n + k) := by
  simp [Passage.drop, List.drop_drop]

namespace Field

/-- Each field of the outline is read at its own mark. -/
theorem exists_of_mem_ofReadings {rs : List (Nat × FieldReading)} {passed : Nat} {p : Passage}
    {f : Field} (hrs : rs.Pairwise fun e later => e.1 < later.1) (hpassed : ∀ e ∈ rs, passed ≤ e.1)
    (hf : f ∈ ofReadings passed p rs) : ∃ e ∈ rs, f = ofReading (p.drop (e.1 - passed)) e.2 := by
  induction rs generalizing passed p with
  | nil => simp [ofReadings] at hf
  | cons first rs ih =>
      rcases List.mem_cons.1 hf with rfl | hf
      · exact ⟨first, List.mem_cons_self, rfl⟩
      · rcases List.pairwise_cons.1 hrs with ⟨hfirst, hrest⟩
        rcases ih hrest (fun e he => Nat.le_of_lt (hfirst e he)) hf with ⟨e, he, rfl⟩
        refine ⟨e, List.mem_cons_of_mem first he, ?_⟩
        -- What is left out up to here and from here on adds up to the mark of the reading.
        have hskip : first.1 - passed + (e.1 - first.1) = e.1 - passed := by
          have hle := hpassed first List.mem_cons_self
          have hlt := hfirst e he
          omega
        rw [Passage.drop_drop, hskip]

/-- Each field of a struct is read from its body, at the piece at which it starts. -/
theorem exists_of_mem_readAll {body : List Token} {f : Field} (hf : f ∈ readAll body) :
    ∃ n r, r ∈ FieldReading.readAll ((Passage.ofTokens body).drop n).marks ∧
      f = ofReading ((Passage.ofTokens body).drop n) r := by
  rcases FieldReading.readFrom_readList (Passage.ofTokens body).marks with ⟨hread, hinOrder⟩
  rcases exists_of_mem_ofReadings hinOrder (fun _ _ => Nat.zero_le _) hf with ⟨e, he, rfl⟩
  exact ⟨e.1, e.2, hread e he, rfl⟩

end Field
end Source
end GoSurvey
