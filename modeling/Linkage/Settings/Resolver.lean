import Linkage.Resolver
import Linkage.Setting

set_option autoImplicit false

namespace Linkage

structure ResolverSettings where
  transports : List Json
  extensions : List Json

namespace ResolverSettings

def ofResolver (r : Resolver) : ResolverSettings :=
  ⟨r.transports.map .str, r.extensions.map .str⟩

def entries (key : String) (fallback : List Text) (resolver : Json) : Except Failure (List Json) := do
  Setting.items (Setting.orElse (.texts fallback) (← Setting.part key resolver))

def ofSettings (settings : Json) : Except Failure ResolverSettings := do
  let resolver ← Setting.section? "resolver" settings
  let transports ← entries "prefixes" Resolver.defaultTransports resolver
  let extensions ← entries "extensions" Resolver.defaultExtensions resolver
  return ⟨transports, extensions⟩

def splitTransport : (transports : List Json) → Text → Except Failure (Option Text × Text)
  | [], raw => .ok (none, raw)
  | .str tag :: tags, raw =>
    match Text.strip? tag raw with
    | some rest => .ok (some tag, rest)
    | none => splitTransport tags raw
  | entry :: _, _ =>
    .error (.wrongType (Text.ofString
      ("startswith first arg must be str or a tuple of str, not " ++ Setting.typeName entry)))

def extensionTexts : List Json → Except Failure (List Text)
  | [] => .ok []
  | .str extension :: rest => do return extension :: (← extensionTexts rest)
  | entry :: _ =>
    .error (.wrongType (Text.ofString
      ("can only concatenate str (not \"" ++ Setting.typeName entry ++ "\") to str")))

def resolve (s : ResolverSettings) (disk : Disk) : Resolution := fun raw directory importer => do
  let (transport, specifier) ← Traced.ofExcept (splitTransport s.transports raw)
  if Resolver.isRelative specifier then
    let extensions ← Traced.ofExcept (extensionTexts s.extensions)
    Resolver.locate extensions disk raw directory importer transport specifier
  else return ⟨specifier, true, transport⟩

theorem splitTransport_map_str (transports : List Text) (raw : Text) :
    splitTransport (transports.map .str) raw = .ok (Resolver.splitTransport transports raw) := by
  induction transports with
  | nil => rfl
  | cons tag tags ih =>
    cases found : Text.strip? tag raw with
    | none => simpa [splitTransport, Resolver.splitTransport, found] using ih
    | some rest => simp [splitTransport, Resolver.splitTransport, found]

theorem extensionTexts_map_str (extensions : List Text) :
    extensionTexts (extensions.map .str) = .ok extensions := by
  induction extensions with
  | nil => rfl
  | cons extension rest ih =>
    simp only [List.map_cons, extensionTexts, ih]
    rfl

theorem resolve_ofResolver (r : Resolver) (disk : Disk) (raw directory : Text)
    (importer : Option Text) :
    (ofResolver r).resolve disk raw directory importer = r.resolve disk raw directory importer := by
  simp only [resolve, ofResolver, splitTransport_map_str, extensionTexts_map_str, Resolver.resolve]
  change Traced.bind (Traced.pure _) _ = _
  rw [Traced.pure_bind]
  split
  · change Traced.bind (Traced.pure _) _ = _
    rw [Traced.pure_bind]
  · rfl

end ResolverSettings

end Linkage
