/-!
# Weights of readings

Some texts can be read in two ways: `[T *U]` after a declared name holds a type parameter or the
length of an array, and `(a, b c)` is two types or two names with one type. Every reading has a
weight, and the heaviest one counts.

* `Weight.plainName`, `Weight.generic`, `Weight.applied`, `Weight.conversion` — what changes a
  weight;
* `Weight.heavier` — the better of two readings;
* `Weight.sum` — the weight of readings in a row.

A reading meets its changes from left to right. Readings of equal weight are told apart by which of
them was ahead before, and for that a weight keeps the last change.
-/

namespace GoSurvey
namespace Source

/-- The weight of a reading: the total of its changes, and the last of them that is not zero. -/
structure Weight where
  total : Int
  last : Int
deriving DecidableEq

namespace Weight

def step (n : Int) : Weight := ⟨n, n⟩

instance : Zero Weight := ⟨⟨0, 0⟩⟩

instance : Add Weight :=
  ⟨fun a b => ⟨a.total + b.total, if b.last = 0 then a.last else b.last⟩⟩

def plainName : Weight := step (-1)

def generic : Weight := step 3

def applied : Weight := step 2

def conversion : Weight := step (-1)

def skipped : Weight := step (-10000)

def heavier : Option Weight → Option Weight → Option Weight
  | none, b => b
  | a, none => a
  | some a, some b => if a.total < b.total then some b else some a

def join (a b : Option Weight) : Option Weight :=
  a.bind fun a => b.map fun b => a + b

def sum (ws : List (Option Weight)) : Option Weight :=
  ws.foldl join (some 0)

end Weight
end Source
end GoSurvey
