import Linkage.Path
import Linkage.Traced

set_option autoImplicit false

namespace Linkage

abbrev Disk := Text → Except Failure Bool

namespace Disk

def ofLists (files denied : List Text) : Disk := fun path =>
  if path ∈ denied then .error (.disk .denied path) else .ok (decide (path ∈ files))

end Disk

abbrev Resolution :=
  (raw directory : Text) → (importer : Option Text) → Traced ModuleSpecifier

structure Resolver where
  transports : List Text
  extensions : List Text

namespace Resolver

def defaultTransports : List Text := ["copy:", "webworker:"].map Text.ofString

def defaultExtensions : List Text := [".js", ".ts", ".jsx", ".tsx"].map Text.ofString

def standard : Resolver := ⟨defaultTransports, defaultExtensions⟩

def splitTransport : (transports : List Text) → Text → Option Text × Text
  | [], raw => (none, raw)
  | tag :: tags, raw =>
    match Text.strip? tag raw with
    | some rest => (some tag, rest)
    | none => splitTransport tags raw

def isRelative (specifier : Text) : Bool := specifier.head? == some (.scalar '.')

def base (specifier directory : Text) : Text := Path.normalize (Path.joinText directory specifier)

def candidates (extensions : List Text) (specifier directory : Text) : List Text :=
  let base := base specifier directory
  let index (extension : Text) := Path.joinText base (Text.ofString "index" ++ extension)
  (base :: extensions.map (base ++ ·) ++ extensions.map index).map fun t => (Path.ofText t).text

def firstFile (disk : Disk) : List Text → Traced (Option Text)
  | [] => ⟨[], .ok none⟩
  | path :: paths =>
    match disk path with
    | .error e => ⟨[path], .error e⟩
    | .ok true => ⟨[path], .ok (some path)⟩
    | .ok false =>
      let rest := firstFile disk paths
      ⟨path :: rest.probes, rest.outcome⟩

-- The file behind a relative specifier, whose whole text is `raw`.
def locate (extensions : List Text) (disk : Disk) (raw directory : Text) (importer : Option Text)
    (transport : Option Text) (specifier : Text) : Traced ModuleSpecifier := do
  match ← firstFile disk (candidates extensions specifier directory) with
  | some path => return ⟨path, false, transport⟩
  | none => Traced.fail (.unresolved raw importer)

def resolve (r : Resolver) (disk : Disk) : Resolution := fun raw directory importer =>
  let (transport, specifier) := splitTransport r.transports raw
  if isRelative specifier then
    locate r.extensions disk raw directory importer transport specifier
  else Traced.pure ⟨specifier, true, transport⟩

end Resolver

end Linkage
