import Linkage.Failure
import Linkage.Json
import Linkage.Path

set_option autoImplicit false

namespace Linkage

-- What a list of ignore patterns says about a path, which is written from the root of its project.
abbrev IgnoreRules := Text → Bool

abbrev PatternReader := List Json → Except Failure IgnoreRules

namespace IgnoreRules

-- A path is asked about as a file and as a directory.
def ignoresRelative (rules : IgnoreRules) (relative : Text) : Bool :=
  rules relative || rules (relative ++ [Path.slash])

-- Nothing outside the project is ignored.
def ignores (rules : IgnoreRules) (root path : Path) : Bool :=
  match path.relativeTo? root with
  | some parts => rules.ignoresRelative (Path.text ⟨.none, parts⟩)
  | none => false

end IgnoreRules

end Linkage
