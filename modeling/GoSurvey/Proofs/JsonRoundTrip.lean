import GoSurvey.Proofs.JsonLexemes

/-!
# Parsing spelled documents

Every spelling of a document is cut into the tokens of the document, and the machine puts these
together to the same document. The two halves share the token sequence of a document and nothing
else: the layout is a matter of the first, the stack one of the second.

* `Json.lexemes` — the tokens of a document;
* `Json.Spells.cutsTo` — cutting a spelling gives the tokens of the document;
* `Json.Machine.run_lexemes` — the tokens of a document take the machine across one value;
* `Json.parse?_eq_some_of_isTextOf` — every spelling is parsed as its document;
* `Json.parse?_pretty` — parsing undoes printing.
-/

namespace GoSurvey
namespace Json

open Text

/-! ## The tokens of a document -/

mutual

def lexemes : Json → List Token
  | null => [.scalar null]
  | bool b => [.scalar (bool b)]
  | nat n => [.scalar (nat n)]
  | number literal => [.scalar (number literal)]
  | str s => [.str s]
  | arr [] => [.openArr, .closeArr]
  | arr (v :: rest) => .openArr :: (lexemes v ++ itemLexemes rest ++ [.closeArr])
  | obj [] => [.openObj, .closeObj]
  | obj ((key, v) :: rest) =>
      .openObj :: .str key :: .colon :: (lexemes v ++ memberLexemes rest ++ [.closeObj])

def itemLexemes : List Json → List Token
  | [] => []
  | v :: rest => .comma :: (lexemes v ++ itemLexemes rest)

def memberLexemes : List (Option String × Json) → List Token
  | [] => []
  | (key, v) :: rest => .comma :: .str key :: .colon :: (lexemes v ++ memberLexemes rest)

end

/-- Later elements have a comma before their tokens. -/
theorem itemLexemes_eq_flatMap (items : List Json) :
    itemLexemes items = items.flatMap fun v => .comma :: lexemes v := by
  induction items with
  | nil => rfl
  | cons v items ih => simp [itemLexemes, ih]

def entryLexemes (m : Option String × Json) : List Token :=
  .str m.1 :: .colon :: lexemes m.2

/-- Later members have a comma before their tokens. -/
theorem memberLexemes_eq_flatMap (members : List (Option String × Json)) :
    memberLexemes members = members.flatMap fun m => .comma :: entryLexemes m := by
  induction members with
  | nil => rfl
  | cons m members ih => simp [memberLexemes, entryLexemes, ih]

/-- The tokens of an array: brackets, and between them the elements with commas. -/
theorem lexemes_arr (items : List Json) :
    lexemes (arr items) = .openArr :: (joined .comma lexemes items ++ [.closeArr]) := by
  cases items with
  | nil => simp [lexemes, joined]
  | cons v items => simp [lexemes, joined, itemLexemes_eq_flatMap]

/-- The tokens of an object: braces, and between them the members with commas. -/
theorem lexemes_obj (members : List (Option String × Json)) :
    lexemes (obj members) = .openObj :: (joined .comma entryLexemes members ++ [.closeObj]) := by
  cases members with
  | nil => simp [lexemes, joined]
  | cons m members => simp [lexemes, joined, entryLexemes, memberLexemes_eq_flatMap]

/-- A number is one token, however it is written. -/
theorem lexemes_ofLiteral (s : List Char) : lexemes (ofLiteral s) = [.scalar (ofLiteral s)] := by
  unfold ofLiteral
  split
  · simp [lexemes]
  · simp [lexemes]

/-- Induction over a document, with the property for all elements of an array and all members of an
object. -/
theorem nestedInduction {motive : Json → Prop} (null : motive null) (bool : ∀ b, motive (bool b))
    (nat : ∀ n, motive (nat n)) (number : ∀ literal, motive (number literal))
    (str : ∀ s, motive (str s)) (arr : ∀ items, (∀ v ∈ items, motive v) → motive (arr items))
    (obj : ∀ members, (∀ m ∈ members, motive m.2) → motive (obj members)) (v : Json) :
    motive v := by
  -- The recursor wants a motive for lists of elements and of members as well.
  refine @Json.rec motive (fun items => ∀ v ∈ items, motive v)
    (fun members => ∀ m ∈ members, motive m.2) (fun m => motive m.2)
    null bool nat number str arr obj ?_ ?_ ?_ ?_ ?_ v
  · simp
  · intro v items hv hitems
    exact List.forall_mem_cons.2 ⟨hv, hitems⟩
  · simp
  · intro m members hm hmembers
    exact List.forall_mem_cons.2 ⟨hm, hmembers⟩
  · intro key v hv
    exact hv

/-! ## Cutting a spelling -/

/-- Before any text that ends a number, the text is cut into the tokens. -/
def CutsTo (s : List Char) (ts : List Token) : Prop :=
  ∀ rest, NumberStops rest → tokens? (s ++ rest) = (tokens? rest).map (ts ++ ·)

/-- A text that ends a number before it, or leaves that to the text after it. -/
def KeepsStops (s : List Char) : Prop :=
  ∀ rest, NumberStops rest → NumberStops (s ++ rest)

/-- Two texts are cut one after the other, unless the second one goes on with a number at the end of
the first. -/
theorem CutsTo.append {s s' : List Char} {ts ts' : List Token} (h : CutsTo s ts)
    (h' : CutsTo s' ts') (hstops : KeepsStops s') : CutsTo (s ++ s') (ts ++ ts') := by
  intro rest hrest
  rw [List.append_assoc, h _ (hstops rest hrest), h' rest hrest, Option.map_map]
  simp [Function.comp_def]

theorem cutsTo_nil : CutsTo [] [] := by
  intro rest _
  simp

/-- A sign is cut off before any text. -/
theorem CutsTo.sign {c : Char} {t : Token} (hsign : (c, t) ∈ signs) {s : List Char}
    {ts : List Token} (h : CutsTo s ts) : CutsTo (c :: s) (t :: ts) := by
  intro rest hrest
  rw [List.cons_append, tokens?_sign hsign, h rest hrest, Option.map_map]
  rfl

/-- No sign goes on with a number. -/
theorem keepsStops_sign {c : Char} {t : Token} (hsign : (c, t) ∈ signs) (s : List Char) :
    KeepsStops (c :: s) := by
  intro rest _ d hd
  obtain rfl := Option.some.inj hd
  simp only [signs, List.mem_cons, List.not_mem_nil, or_false, Prod.mk.injEq] at hsign
  rcases hsign with h | h | h | h | h | h <;> rcases h with ⟨rfl, -⟩ <;> decide

/-- No space goes on with a number. -/
theorem keepsStops_spacing {s : List Char} (h : IsSpacing s) : KeepsStops s := by
  intro rest hrest
  cases s with
  | nil => exact hrest
  | cons c s =>
      intro d hd
      obtain rfl := Option.some.inj hd
      have hspace : isSpace c = true := h c List.mem_cons_self
      simp only [isSpace, Bool.or_eq_true, beq_iff_eq] at hspace
      rcases hspace with ((rfl | rfl) | rfl) | rfl <;> decide

/-- Spacing before a sign leaves its token. -/
theorem cutsTo_spacing_sign {spaces : List Char} (hspaces : IsSpacing spaces) {c : Char}
    {t : Token} (hsign : (c, t) ∈ signs) : CutsTo (spaces ++ [c]) [t] := by
  intro rest hrest
  rw [List.append_assoc, tokens?_spacing hspaces]
  exact cutsTo_nil.sign hsign rest hrest

theorem keepsStops_spacing_sign {spaces : List Char} (hspaces : IsSpacing spaces) {c : Char}
    {t : Token} (hsign : (c, t) ∈ signs) : KeepsStops (spaces ++ [c]) := by
  intro rest hrest
  rw [List.append_assoc]
  exact keepsStops_spacing hspaces _ (keepsStops_sign hsign [] rest hrest)

/-- The spaces around a spelling add no token. -/
theorem CutsTo.render {α : Type} {p : Spaced α} {ts : List Token} (h : CutsTo p.text ts) :
    CutsTo p.render ts := by
  intro rest hrest
  rw [Spaced.render, List.append_assoc, tokens?_spacing p.isSpacing_before, List.append_assoc,
    h _ (keepsStops_spacing p.isSpacing_after rest hrest), tokens?_spacing p.isSpacing_after]

section Parts

variable {α : Type} {render : α → List Char} {tokensOf : α → List Token} {l : List α}

theorem keepsStops_commas (l : List α) : KeepsStops (l.flatMap fun a => ',' :: render a) := by
  cases l with
  | nil => exact fun rest hrest => hrest
  | cons a l => exact keepsStops_sign (t := .comma) (by simp [signs]) _

/-- Elements behind commas are cut to their tokens behind commas. -/
theorem cutsTo_commas (h : ∀ a ∈ l, CutsTo (render a) (tokensOf a)) :
    CutsTo (l.flatMap fun a => ',' :: render a) (l.flatMap fun a => .comma :: tokensOf a) := by
  induction l with
  | nil => exact cutsTo_nil
  | cons a l ih =>
      rcases List.forall_mem_cons.1 h with ⟨ha, hl⟩
      exact (ha.sign (by simp [signs])).append (ih hl) (keepsStops_commas l)

/-- Elements with commas between them are cut to their tokens with commas between them. -/
theorem cutsTo_joined (h : ∀ a ∈ l, CutsTo (render a) (tokensOf a)) :
    CutsTo (joined ',' render l) (joined .comma tokensOf l) := by
  cases l with
  | nil => exact cutsTo_nil
  | cons first l =>
      rcases List.forall_mem_cons.1 h with ⟨hfirst, hl⟩
      exact hfirst.append (cutsTo_commas hl) (keepsStops_commas l)

/-- Parts between two brackets. -/
theorem cutsTo_bracketed (h : ∀ a ∈ l, CutsTo (render a) (tokensOf a)) {spaces : List Char}
    (hspaces : IsSpacing spaces) {c d : Char} {opening closing : Token}
    (hopening : (c, opening) ∈ signs) (hclosing : (d, closing) ∈ signs) :
    CutsTo (c :: (joined ',' render l ++ (spaces ++ [d])))
      (opening :: (joined .comma tokensOf l ++ [closing])) := by
  have hclose := cutsTo_spacing_sign hspaces hclosing
  exact ((cutsTo_joined h).append hclose (keepsStops_spacing_sign hspaces hclosing)).sign hopening

end Parts

/-- Writing images with a separator is writing with another writer. -/
theorem joined_map {α β γ : Type} (separator : γ) (f : α → β) (render : β → List γ) (l : List α) :
    joined separator render (l.map f) = joined separator (fun a => render (f a)) l := by
  cases l with
  | nil => rfl
  | cons a l => simp [joined, List.flatMap_map]

/-- A spelled member is cut to the tokens of its key, a colon and its value. -/
theorem cutsTo_member {m : Member} (hkey : SpellsString m.key.value m.key.text)
    (hvalue : CutsTo m.value.text (lexemes m.value.value)) :
    CutsTo m.render (entryLexemes m.entry) := by
  have hcolon : (':', Token.colon) ∈ signs := by simp [signs]
  have hname : CutsTo m.key.text [.str m.key.value] := fun rest _ => tokens?_spelledString hkey rest
  exact hname.render.append (hvalue.render.sign hcolon) (keepsStops_sign hcolon _)

/-- Every spelling of a document is cut into the tokens of the document. -/
theorem Spells.cutsTo {v : Json} {s : List Char} (h : Spells v s) : CutsTo s (lexemes v) := by
  induction h with
  | nullWord => exact fun rest _ => tokens?_null rest
  | trueWord => exact fun rest _ => tokens?_true rest
  | falseWord => exact fun rest _ => tokens?_false rest
  -- Only a number depends on what follows it.
  | number h =>
      rw [lexemes_ofLiteral]
      exact fun rest hrest => tokens?_number h hrest
  | string h => exact fun rest _ => tokens?_spelledString h rest
  | array hitems hspaces ih =>
      rw [lexemes_arr, joined_map]
      exact cutsTo_bracketed (fun item hitem => (ih item hitem).render) hspaces (by simp [signs])
        (by simp [signs])
  | object hkeys hvalues hspaces ih =>
      rw [lexemes_obj, joined_map]
      exact cutsTo_bracketed (fun m hm => cutsTo_member (hkeys m hm) (ih m hm)) hspaces
        (by simp [signs]) (by simp [signs])

/-! ## Putting tokens together -/

namespace Machine

/-- The tokens of the document take the machine from before a value to after it. -/
def Reads (v : Json) : Prop :=
  ∀ (stack : List Frame) (ts : List Token),
    (value stack).run (lexemes v ++ ts) = (after v stack).run ts

/-- The tokens of later elements put these behind the ones that the machine has. -/
theorem run_itemLexemes {items : List Json} (hitems : ∀ v ∈ items, Reads v) (v : Json)
    (done : List Json) (stack : List Frame) (ts : List Token) :
    (after v (.array done :: stack)).run (itemLexemes items ++ .closeArr :: ts) =
      (after (arr ((v :: done).reverse ++ items)) stack).run ts := by
  induction items generalizing v done with
  | nil => simp [itemLexemes, run, step]
  | cons w items ih =>
      rcases List.forall_mem_cons.1 hitems with ⟨hw, hlater⟩
      -- One comma and one element, and the rest by the induction.
      calc
        (after v (.array done :: stack)).run (itemLexemes (w :: items) ++ .closeArr :: ts)
            = (value (.array (v :: done) :: stack)).run
                (lexemes w ++ (itemLexemes items ++ .closeArr :: ts)) := by
              simp [itemLexemes, run, step]
        _ = (after w (.array (v :: done) :: stack)).run (itemLexemes items ++ .closeArr :: ts) :=
              hw _ _
        _ = (after (arr ((w :: v :: done).reverse ++ items)) stack).run ts :=
              ih hlater w (v :: done)
        _ = (after (arr ((v :: done).reverse ++ w :: items)) stack).run ts := by simp

/-- The tokens of later members put these behind the ones that the machine has. -/
theorem run_memberLexemes {members : List (Option String × Json)}
    (hmembers : ∀ m ∈ members, Reads m.2) (key : Option String) (v : Json)
    (done : List (Option String × Json)) (stack : List Frame) (ts : List Token) :
    (after v (.object done key :: stack)).run (memberLexemes members ++ .closeObj :: ts) =
      (after (obj (((key, v) :: done).reverse ++ members)) stack).run ts := by
  induction members generalizing key v done with
  | nil => simp [memberLexemes, run, step]
  | cons m members ih =>
      rcases m with ⟨nextKey, w⟩
      rcases List.forall_mem_cons.1 hmembers with ⟨hw, hlater⟩
      calc
        (after v (.object done key :: stack)).run
            (memberLexemes ((nextKey, w) :: members) ++ .closeObj :: ts)
            = (value (.object ((key, v) :: done) nextKey :: stack)).run
                (lexemes w ++ (memberLexemes members ++ .closeObj :: ts)) := by
              simp [memberLexemes, run, step]
        _ = (after w (.object ((key, v) :: done) nextKey :: stack)).run
                (memberLexemes members ++ .closeObj :: ts) := hw _ _
        _ = (after (obj (((nextKey, w) :: (key, v) :: done).reverse ++ members)) stack).run ts :=
              ih hlater nextKey w ((key, v) :: done)
        _ = (after (obj (((key, v) :: done).reverse ++ (nextKey, w) :: members)) stack).run ts := by
              simp

/-- No document starts with a closing bracket, so at the start of an array the first element is read
as any value is. -/
theorem run_arrayStart_lexemes (v : Json) (stack : List Frame) (ts : List Token) :
    (arrayStart stack).run (lexemes v ++ ts) =
      (value (.array [] :: stack)).run (lexemes v ++ ts) := by
  cases v with
  | arr items => cases items <;> simp [lexemes, run, step]
  | obj members => cases members <;> simp [lexemes, run, step]
  | _ => simp [lexemes, run, step]

/-- The tokens of an array make the array. -/
theorem reads_arr {items : List Json} (hitems : ∀ v ∈ items, Reads v) : Reads (arr items) := by
  intro stack ts
  cases items with
  | nil => simp [lexemes, run, step, begin?]
  | cons v items =>
      rcases List.forall_mem_cons.1 hitems with ⟨hv, hlater⟩
      have hfirst := hv (.array [] :: stack) (itemLexemes items ++ .closeArr :: ts)
      have hitems := run_itemLexemes hlater v [] stack ts
      simp [lexemes, run, step, begin?, run_arrayStart_lexemes, hfirst, hitems]

/-- The tokens of an object make the object. -/
theorem reads_obj {members : List (Option String × Json)} (hmembers : ∀ m ∈ members, Reads m.2) :
    Reads (obj members) := by
  intro stack ts
  cases members with
  | nil => simp [lexemes, run, step, begin?]
  | cons m members =>
      rcases m with ⟨key, v⟩
      rcases List.forall_mem_cons.1 hmembers with ⟨hv, hlater⟩
      have hfirst := hv (.object [] key :: stack) (memberLexemes members ++ .closeObj :: ts)
      have hmembers := run_memberLexemes hlater key v [] stack ts
      simp [lexemes, run, step, begin?, hfirst, hmembers]

/-- The tokens of any document make the document, wherever it stands. -/
theorem run_lexemes (v : Json) : Reads v := by
  induction v using nestedInduction with
  | arr items ih => exact reads_arr ih
  | obj members ih => exact reads_obj ih
  | _ =>
      intro stack ts
      simp [lexemes, run, step, begin?]

end Machine

/-! ## Whole texts -/

/-- Every text of a document is parsed as the document. -/
theorem parse?_eq_some_of_isTextOf {v : Json} {s : String} (h : IsTextOf v s) :
    parse? s = some v := by
  rcases h with ⟨p, rfl, hspells, htext⟩
  have htokens : tokens? s.toList = some (lexemes p.value) := by
    simpa [tokens?, htext] using hspells.cutsTo.render [] numberStops_nil
  have hrun : (Machine.value []).run (lexemes p.value) = some (.after p.value []) := by
    simpa [Machine.run] using Machine.run_lexemes p.value [] []
  simp [parse?, htokens, hrun, Machine.result?]

/-- A printed document is a text of it. -/
theorem isTextOf_pretty {v : Json} (hv : v.NatOnly) : IsTextOf v v.pretty := by
  refine ⟨.bare (write 0 v) v, rfl, spells_write hv 0, ?_⟩
  simp [pretty, Spaced.bare, Spaced.render]

/-- Parsing undoes printing. -/
theorem parse?_pretty {v : Json} (hv : v.NatOnly) : parse? v.pretty = some v :=
  parse?_eq_some_of_isTextOf (isTextOf_pretty hv)

end Json
end GoSurvey
