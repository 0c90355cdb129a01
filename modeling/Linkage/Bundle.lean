import Linkage.Host
import Linkage.Ignore.Pattern
import Linkage.Statement

set_option autoImplicit false

namespace Linkage

-- A disk, for a run with the parser and the pattern reader of this library.
def Host.bundled (tree : FileTree) (directory home : Path) : Host :=
  ⟨tree, directory, home, Grammar.scan, IgnorePatterns.reader⟩

end Linkage
