import GoSurvey.Json.Reader

/-!
# Configuration

* `Config` — the options of a scan;
* `Config.parse?` — a configuration written in JSON. Keys that are left out keep their defaults,
  and keys that are not known are passed over.
-/

namespace GoSurvey

structure Config where
  /-- Whether test files are loaded too. -/
  includeTests : Bool := false
  /-- Whether packages may be surveyed side by side; the result is the same either way. -/
  parallel : Bool := true
  /-- Patterns of paths to leave out. -/
  exclude : List String := []
deriving DecidableEq

namespace Config

/-- The keys of a configuration in the order in which an array lists their values. -/
def keys : List String :=
  ["include_tests", "parallel", "exclude"]

def option? {α : Type} (decode : Json → Option α) (default : α) : Option Json → Option α
  | none => some default
  | some v => decode v

def ofJson? (v : Json) : Option Config :=
  match v.fields? keys with
  | some [includeTests, parallel, exclude] => do
      let defaults : Config := {}
      some
        { includeTests := ← option? Json.bool? defaults.includeTests includeTests
          parallel := ← option? Json.bool? defaults.parallel parallel
          exclude := ← option? (Json.list? Json.text?) defaults.exclude exclude }
  | _ => none

def toJson (c : Config) : Json :=
  .record
    [("include_tests", .bool c.includeTests), ("parallel", .bool c.parallel),
     ("exclude", .list Json.text c.exclude)]

def parse? (s : String) : Option Config :=
  (Json.parse? s).bind ofJson?

def invalidMessage : String :=
  "Invalid scan configuration"

end Config
end GoSurvey
