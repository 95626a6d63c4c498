import GoSurvey.Source.ValueReading

/-!
# Extents

How many marks a statement or a declaration takes. The survey does not look into statements, but it
has to know where they end. A line end is the end wherever the statement could end there: after an
operand, but not before one, nor in the header of a statement with a body.

* `Extent.value` — a value;
* `Extent.simple` — values with assignments between them;
* `Extent.typeSpec`, `Extent.element`, `Extent.signature` — parts of declarations;
* `Extent.statement` — a statement or declaration.

The number `fuel` bounds how many operands or parts are read; the number of marks is enough.
-/

namespace GoSurvey
namespace Source
namespace Extent

/-! ## Values -/

/-- Whether an operand that starts with the mark can be the type of a literal in braces. -/
def isLiteralType (m : Mark) : Bool :=
  (m.word?.map fun w => !valueWords.contains w).getD false

/-- Whether the braces that a header meets after an operand belong to a literal: then something other
than the end of the statement follows them on their line. -/
def literalFollows : List Mark → Bool
  | [] => false
  | m :: _ => !m.ends && !m.isWord "else"

/-- Whether the marks end with types in square brackets, which make a value of the type before
them. -/
def endsWithTypes (ms : List Mark) : Bool :=
  match ms.getLast? with
  | none => false
  | some m =>
      match m.sign with
      | .squares s => s.plainTypes.isSome
      | _ => false

/-- A type with what makes a value of it: the literal or body in braces, the value in parentheses or
the types in square brackets after it. In a header the braces after types in square brackets belong
to a literal only if the header goes on after them. -/
def typedOperand (header : Bool) (ms : List Mark) : Nat :=
  match TypeReading.choose false (fun _ => false) ms with
  | none => 1
  | some r =>
      match ms.drop r.size with
      | [] => r.size
      | m :: rest =>
          let isValue := endsWithTypes (ms.take r.size)
          match m.sign with
          | .braces => if header && isValue && !literalFollows rest then r.size else r.size + 1
          | .parens _ | .squares _ => if isValue then r.size else r.size + 1
          | _ => r.size

def operand (header : Bool) : List Mark → Nat
  | [] => 0
  | m :: ms =>
      match m.sign with
      | .literal | .text | .stray | .parens _ => 1
      | .squares s => if s.isDots then typedOperand header ms + 1 else typedOperand header (m :: ms)
      | .symbol '~' => typedOperand header (m :: ms)
      | .symbol _ | .braces => 0
      | .word w => if typeWords.contains w then typedOperand header (m :: ms) else 1

/-- Selectors, indices, calls and literals after an operand. In a header braces are a literal only if
the operand can be its type (`isType`) and the header goes on after them. -/
def suffixes (stop header isType : Bool) : List Mark → Nat
  | [] => 0
  | m :: ms =>
      if m.breaks stop then 0
      else
        match m.sign with
        | .squares _ => suffixes stop header isType ms + 1
        | .parens _ => suffixes stop header false ms + 1
        | .braces =>
            -- These are the braces of the body otherwise.
            if header && !(isType && literalFollows ms) then 0
            else suffixes stop header false ms + 1
        | .symbol '.' =>
            match ms with
            | [] => 0
            | n :: rest =>
                match n.sign with
                | .word _ => suffixes stop header isType rest + 2
                | .parens _ => suffixes stop header false rest + 2
                | _ => 0
        | _ => 0

/-- The operator between operands that the marks start with, unless they go on with an assignment or
a statement of another kind. -/
def operator? (ms : List Mark) : Option Nat :=
  match ms with
  | [] => none
  | m :: rest =>
      let twice := fun c => m.isSymbol c && Operator.joins rest c
      let arrow := m.isSymbol '<' && Operator.joins rest '-'
      if twice '+' || twice '-' || arrow then none
      else
        (Operator.binarySize? ms).bind fun n =>
          if Operator.joins (ms.drop n) '=' then none else some n

def value (stop header : Bool) : Nat → List Mark → Nat
  | 0, _ => 0
  | fuel + 1, ms =>
      let before := Operator.prefixSize ms
      let start := ms.drop before
      match operand header start with
      | 0 => before
      | n =>
          let isType := (start.head?.map isLiteralType).getD false
          let size := before + n + suffixes stop header isType (start.drop n)
          match ms.drop size with
          | [] => size
          | m :: rest =>
              if m.breaks stop then size
              else
                match operator? (m :: rest) with
                | none => size
                | some k => size + k + value stop header fuel ((m :: rest).drop k)

/-! ## Simple statements -/

/-- What stands between two values of a simple statement: a comma, an arrow, or an assignment with or
without an operator. -/
def connector? (ms : List Mark) : Option Nat :=
  match ms with
  | [] => none
  | m :: rest =>
      if m.isSymbol ',' then some 1
      else if m.isSymbol '=' then some 1
      else if m.isSymbol ':' && Operator.joins rest '=' then some 2
      else if m.isSymbol '<' && Operator.joins rest '-' then some 2
      else
        (Operator.binarySize? ms).bind fun n =>
          if Operator.joins (ms.drop n) '=' then some (n + 1) else none

/-- Whether the marks start with a doubled sign, which ends a statement. -/
def isStepwise (ms : List Mark) : Bool :=
  match ms with
  | [] => false
  | m :: rest =>
      (m.isSymbol '+' && Operator.joins rest '+') || (m.isSymbol '-' && Operator.joins rest '-')

def simple (stop header : Bool) : Nat → List Mark → Nat
  | 0, _ => 0
  | fuel + 1, ms =>
      let size := value stop header (fuel + 1) ms
      match ms.drop size with
      | [] => size
      | m :: rest =>
          if m.breaks stop then size
          else if isStepwise (m :: rest) then size + 2
          else
            match connector? (m :: rest) with
            | none => size
            | some k => size + k + simple stop header fuel ((m :: rest).drop k)

/-- The values that are assigned to, from one after a comma on, and the values that they get. Line
ends before the assignment are blanks. -/
def assigned : Nat → List Mark → Nat
  | 0, _ => 0
  | fuel + 1, ms =>
      let size := value false false (fuel + 1) ms
      match ms.drop size with
      | [] => size
      | m :: rest =>
          if m.isSymbol ',' then size + 1 + assigned fuel rest
          else
            match connector? (m :: rest) with
            | none => size
            | some k => size + k + simple true false fuel ((m :: rest).drop k)

/-- A statement that starts with a value. After a list of values an assignment has to follow. -/
def valued (fuel : Nat) (ms : List Mark) : Nat :=
  let size := value true false fuel ms
  match ms.drop size with
  | [] => size
  | m :: rest =>
      if m.isSymbol ',' && !m.newLine then size + 1 + assigned fuel rest
      else simple true false fuel ms

/-- The header and the body of a statement. Line ends in a header are blanks. -/
def headed : Nat → List Mark → Nat
  | 0, _ => 0
  | _, [] => 0
  | fuel + 1, m :: ms =>
      if m.isBraces then 1
      else
        let size := max 1 (simple false true (fuel + 1) (m :: ms))
        size + headed fuel ((m :: ms).drop size)

def branches : Nat → List Mark → Nat
  | 0, _ => 0
  | fuel + 1, ms =>
      let size := headed (fuel + 1) ms
      match ms.drop size with
      | m :: n :: rest =>
          if m.newLine || !m.isWord "else" then size
          else if n.isWord "if" then size + 2 + branches fuel rest
          else if n.isBraces then size + 2
          -- A lone `else` is taken along.
          else size + 1
      | _ => size

/-! ## Declarations -/

def type (fits : List Mark → Bool) (ms : List Mark) : Nat :=
  ((TypeReading.choose true fits ms).map (·.size)).getD 0

def names : List Mark → Nat
  | m :: comma :: rest =>
      if m.word?.isSome && comma.isSymbol ',' then names rest + 2
      else if m.word?.isSome then 1
      else 0
  | [m] => if m.word?.isSome then 1 else 0
  | [] => 0

def startsWith (c : Char) : List Mark → Bool
  | [] => false
  | m :: _ => m.isSymbol c

/-- A declaration of constants after its keyword. A type has to be followed by values. -/
def constSpec (fuel : Nat) (ms : List Mark) : Nat :=
  match ms with
  | [] => 0
  | m :: _ =>
      match m.sign with
      | .parens _ => 1
      | _ =>
          let size := names ms
          let rest := ms.drop size
          if Marks.atEnd rest then size
          else
            let typed :=
              if startsWith '=' rest then 0
              else ((TypeReading.choose false (startsWith '=') rest).map (·.size)).getD 0
            size + typed + simple true false fuel (rest.drop typed)

/-- A declaration of variables after its keyword. Names have to be followed by a type or values. -/
def varSpec (fuel : Nat) (ms : List Mark) : Nat :=
  match ms with
  | [] => 0
  | m :: _ =>
      match m.sign with
      | .parens _ => 1
      | _ =>
          let size := names ms
          let rest := ms.drop size
          let typed :=
            if startsWith '=' rest then 0
            else type (fun later => Marks.atEnd later || startsWith '=' later) rest
          let values := rest.drop typed
          -- After a type the values have to start on its line.
          if startsWith '=' values && (typed == 0 || !Marks.atEnd values) then
            size + typed + simple true false fuel values
          else size + typed

/-- An entry of a type declaration: a name, brackets or none, and a type. -/
def typeSpec (ms : List Mark) : Nat :=
  let rest := ms.drop 1
  let brackets : Nat :=
    match rest with
    | [] => 0
    | m :: _ =>
        match m.sign with
        | .squares _ => 1
        | _ => 0
  let equals : Nat := if startsWith '=' (rest.drop brackets) then 1 else 0
  1 + brackets + equals + type Marks.atEnd (rest.drop (brackets + equals))

/-- Whether a declaration ends before the marks or goes on with a body. -/
def atBody (ms : List Mark) : Bool :=
  Marks.atEnd ms || ((ms.head?.map Mark.isBraces).getD false)

def result (ms : List Mark) : Nat :=
  match ms with
  | [] => 0
  | m :: _ =>
      if m.newLine || !TypeReading.canStart m then 0
      else
        match m.sign with
        | .parens _ => 1
        | _ => type atBody ms

def signature (ms : List Mark) : Nat :=
  1 + result (ms.drop 1)

def body (ms : List Mark) : Nat :=
  match ms with
  | [] => 0
  | m :: _ => if m.isBraces && !m.newLine then 1 else 0

def startsParens (ms : List Mark) : Bool :=
  match ms with
  | [] => false
  | m :: _ =>
      match m.sign with
      | .parens _ => true
      | _ => false

/-- A function after its keyword: a name, type parameters or none, and a signature. -/
def function (ms : List Mark) : Nat :=
  let rest := ms.drop 1
  let params : Nat := if startsParens rest then 0 else 1
  let size := 1 + params + signature (rest.drop params)
  size + body (ms.drop size)

/-- Whether the marks after the keyword of a function are those of a method: a receiver and a name
before the parameters. -/
def isMethod : List Mark → Bool
  | receiver :: name :: params =>
      startsParens [receiver] && startsParens params
        && ((name.word?.map fun w => !typeWords.contains w).getD false)
  | _ => false

def method (ms : List Mark) : Nat :=
  let size := 2 + signature (ms.drop 2)
  size + body (ms.drop size)

/-- A method of an interface: a name that can be one, and parameters on its line. -/
def isElementMethod : List Mark → Bool
  | name :: params :: _ =>
      startsParens [params] && !params.newLine
        && ((name.word?.map fun w => !typeWords.contains w).getD false)
  | _ => false

def union : Nat → List Mark → Nat
  | 0, _ => 0
  | fuel + 1, ms =>
      let size := type (fun rest => Marks.atEnd rest || startsWith '|' rest) ms
      match ms.drop size with
      | [] => size
      | m :: rest =>
          if m.isSymbol '|' && !m.newLine then size + 1 + union fuel rest else size

def toEnd : List Mark → Nat
  | [] => 0
  | m :: ms => if m.ends then 0 else toEnd ms + 1

/-- An entry of which `size` marks have been read, with what is left of its line. -/
def completed (size : Nat) (ms : List Mark) : Nat :=
  let size := max 1 size
  size + toEnd (ms.drop size)

def element (fuel : Nat) (ms : List Mark) : Nat :=
  completed (if isElementMethod ms then 1 + signature (ms.drop 1) else union fuel ms) ms

/-! ## Statements -/

def imported (ms : List Mark) : Nat :=
  match ms with
  | [] => 0
  | m :: _ =>
      match m.sign with
      | .parens _ | .text => 1
      | _ => 2

/-- A label on the line of a statement, after a keyword that can have one. -/
def label (ms : List Mark) : Nat :=
  match ms with
  | [] => 0
  | m :: _ => if m.word?.isSome && !m.newLine then 1 else 0

/-- Whether the marks start with a name and a colon that labels a statement. -/
def isLabeled : List Mark → Bool
  | name :: colon :: rest =>
      name.word?.isSome && colon.isSymbol ':' && !colon.newLine && !Operator.joins rest '='
  | _ => false

/-- A statement or declaration. Only at the top of a file (`isTop`) can it be a package clause, an
import, a function or a method. A label belongs to the statement that follows it. -/
def statement (isTop : Bool) : Nat → List Mark → Nat
  | 0, _ => 0
  | _, [] => 0
  | fuel + 1, m :: ms =>
      match m.sign with
      | .symbol ';' | .braces => 1
      | .word w =>
          if w = "const" then 1 + constSpec fuel ms
          else if w = "var" then 1 + varSpec fuel ms
          else if w = "type" then 1 + (if startsParens ms then 1 else typeSpec ms)
          else if w = "return" then
            1 + (if Marks.atEnd ms then 0 else simple true false fuel ms)
          else if w = "go" ∨ w = "defer" then 1 + value true false fuel ms
          else if w = "if" then 1 + branches fuel ms
          else if w = "for" ∨ w = "switch" ∨ w = "select" then 1 + headed fuel ms
          else if w = "break" ∨ w = "continue" then 1 + label ms
          else if w = "goto" then 2
          else if w = "fallthrough" then 1
          else if isTop ∧ w = "package" then 2
          else if isTop ∧ w = "import" then 1 + imported ms
          else if w = "func" then
            if isTop && (ms.head?.bind Mark.word?).isSome then 1 + function ms
            else if isTop && isMethod ms then 1 + method ms
            else valued (fuel + 1) (m :: ms)
          else if isLabeled (m :: ms) then 2 + statement false fuel (ms.drop 1)
          else valued (fuel + 1) (m :: ms)
      | _ => valued (fuel + 1) (m :: ms)

end Extent
end Source
end GoSurvey
