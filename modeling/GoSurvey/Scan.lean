import GoSurvey.Extract
import GoSurvey.Load

/-!
# Scanning packages

* `Scan.package` — the model of a loaded package;
* `Scan.run` — the models of every package that the patterns name.
-/

namespace GoSurvey
namespace Scan

open Model

def file (p : LoadedPackage) (f : LoadedFile) : File :=
  Extract.model ⟨p.importPath, p.name, f.path⟩ f.outline

def package (p : LoadedPackage) : Package :=
  { id := p.id, name := p.name, pkgPath := p.importPath,
    files := (p.files.map (file p)).filter (!·.structs.isEmpty) }

def run (t : FileTree) (texts : List String) (config : Config) : Except LoadError (List Package) :=
  (Load.roots t texts config).map (·.map package)

end Scan
end GoSurvey
