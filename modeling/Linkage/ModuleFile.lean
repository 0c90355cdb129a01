import Linkage.Classification
import Linkage.Host

set_option autoImplicit false

namespace Linkage

namespace ModuleFile

def graph (parse : Parser) (resolve : Resolution) (path : Path) (source : Bytes) : Traced Graph := do
  let grammar ← Traced.ofExcept (Grammar.ofPath path)
  classify resolve source path.text (Path.directoryOf path.text) (parse grammar source)

def wrap {α : Type} (path : Path) : Except Failure α → Except FileFailure α
  | .ok a => .ok a
  | .error cause => .error ⟨path.text, cause⟩

def trace (host : Host) (resolve : Resolution) (path : Path) : Traced Graph := do
  let source ← Traced.ofExcept (host.read path)
  graph host.parse resolve path source

def load (host : Host) (resolve : Resolution) (path : Path) : Except FileFailure Graph :=
  wrap path (trace host resolve path).outcome

end ModuleFile

end Linkage
