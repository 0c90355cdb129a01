import Linkage.Failure
import Linkage.Path
import Linkage.SyntaxTree
import Linkage.Text.LetterCase

set_option autoImplicit false

namespace Linkage

inductive Grammar where
  | typescript
  | tsx
deriving DecidableEq

namespace Grammar

def name : Grammar → String
  | .typescript => "typescript"
  | .tsx => "tsx"

def ofName (name : Text) : Except Failure Grammar :=
  if name = Text.ofString "typescript" then .ok .typescript
  else if name = Text.ofString "tsx" then .ok .tsx
  else .error (.unknownGrammar name)

-- The suffixes with a grammar. Plain scripts are read by the one with markup.
def suffixes : List (Text × Grammar) :=
  [(".js", tsx), (".jsx", tsx), (".ts", typescript), (".tsx", tsx)].map fun (s, g) =>
    (Text.ofString s, g)

def ofSuffix? (suffix : Text) : Option Grammar := suffixes.lookup (Text.lower suffix)

def ofPath (path : Path) : Except Failure Grammar :=
  match ofSuffix? path.suffix with
  | some g => .ok g
  | none => .error (.noGrammar path.name)

def supports (path : Path) : Bool := (ofSuffix? path.suffix).isSome

def hasMarkup (g : Grammar) : Bool := g = .tsx

end Grammar

-- What a grammar makes of a source: the nodes at its top level.
abbrev Parser := Grammar → Bytes → List Node

end Linkage
