import GoSurvey.Source.ListReading

/-!
# From tokens to marks

* `ParenSenses.ofMarks`, `SquareSenses.ofMarks` — how a text between brackets can be read;
* `Marks.ofTokens` — the marks of a list of tokens.

A bracket that closes makes one mark of all that it encloses, whose own marks are summed up by their
senses. So every text between brackets is read once, however deep it stands. A text in braces is not
looked into: it is a body or a literal wherever it stands, and reads the same in each.
-/

namespace GoSurvey
namespace Source

def ParenSenses.ofMarks (ms : List Mark) : ParenSenses where
  value := Value.weight ms
  operand := Values.operand ms
  arguments := Values.arguments ms
  creation := Values.creation ms
  type := TypeReading.soleWeight false ms
  mixedType := TypeReading.soleWeight true ms
  params := (ParamReading.readList? ms).map (·.weight)

def SquareSenses.ofMarks (ms : List Mark) : SquareSenses where
  isEmpty := ms.isEmpty
  isDots := Marks.afterDots? ms == some []
  value := Value.weight ms
  bounds := Values.bounds ms
  type := TypeReading.soleWeight false ms
  plainTypes := Types.plain ms
  types := Types.arguments false ms
  mixedTypes := Types.arguments true ms
  typeParams := Types.params ms

/-- What has been passed since the last sign. -/
structure Gap where
  newLine : Bool
  commented : Bool
  joined : Bool

namespace Gap

def empty : Gap := ⟨false, false, true⟩

def pass (g : Gap) (t : Token) : Gap :=
  ⟨g.newLine || t.kind == .newline, g.commented || t.kind == .comment, false⟩

def mark (g : Gap) (s : Sign) : Mark :=
  ⟨s, g.newLine, g.commented, g.joined⟩

end Gap

def Sign.ofToken (t : Token) : Sign :=
  match t.kind, t.text with
  | .word, cs => .word (String.ofList cs)
  | .literal, _ => .literal
  | .text, _ => .text
  | .symbol, c :: _ => .symbol c
  | _, _ => .stray

/-- A bracketed text that is not closed yet: whether it stands in parentheses, and the gap and the
marks before it. -/
structure Enclosure where
  isParens : Bool
  gap : Gap
  before : List Mark

/-- The marks of the tokens read so far. -/
structure Marking where
  /-- The marks of the innermost open text, the last one first. -/
  marks : List Mark
  /-- What stands after the last of them. -/
  gap : Gap
  /-- The open texts, the innermost first. -/
  outer : List Enclosure
  /-- The gap before open braces, and how many brackets are open inside them. -/
  braces : Option (Gap × Nat)

namespace Marking

def empty : Marking := ⟨[], Gap.empty, [], none⟩

def put (s : Marking) (sign : Sign) : Marking :=
  { s with marks := s.gap.mark sign :: s.marks, gap := Gap.empty }

def close (s : Marking) : Marking :=
  match s.outer with
  | [] => s
  | e :: outer =>
      let inner := s.marks.reverse
      let sign :=
        if e.isParens then Sign.parens (ParenSenses.ofMarks inner)
        else Sign.squares (SquareSenses.ofMarks inner)
      ⟨e.gap.mark sign :: e.before, Gap.empty, outer, none⟩

def takeHidden (s : Marking) (gap : Gap) (depth : Nat) (t : Token) : Marking :=
  if t.opens then { s with braces := some (gap, depth + 1) }
  else if t.closes then
    match depth with
    | 0 => { s with marks := gap.mark .braces :: s.marks, gap := Gap.empty, braces := none }
    | depth + 1 => { s with braces := some (gap, depth) }
  else s

def take (s : Marking) (t : Token) : Marking :=
  -- Nothing is marked inside of braces.
  match s.braces with
  | some (gap, depth) => s.takeHidden gap depth t
  | none =>
      if t.isTrivia then { s with gap := s.gap.pass t }
      else if t.isSymbol "\x7b" then { s with braces := some (s.gap, 0) }
      else if t.opens then
        ⟨[], Gap.empty, ⟨t.isSymbol "(", s.gap, s.marks⟩ :: s.outer, none⟩
      -- A closing bracket that closes nothing is a mark like any other.
      else if t.closes && !s.outer.isEmpty then s.close
      else s.put (Sign.ofToken t)

/-- The marks of all tokens. A text that is never closed takes all that follows. -/
def finish (s : Marking) : List Mark :=
  let s :=
    match s.braces with
    | some (gap, _) => { s with marks := gap.mark .braces :: s.marks, braces := none }
    | none => s
  (s.outer.foldl (fun s _ => s.close) s).marks.reverse

end Marking

def Marks.ofTokens (ts : List Token) : List Mark :=
  (ts.foldl Marking.take Marking.empty).finish

end Source
end GoSurvey
