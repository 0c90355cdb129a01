import Linkage.Proofs.PlaceLookup
import Linkage.Proofs.StatementFailure
import Linkage.Settings.Resolver

set_option autoImplicit false

namespace Linkage

namespace ResolverSettings

def search (s : ResolverSettings) (disk : Disk) (raw directory : Text) : Traced (Option ModuleSpecifier) := do
  let (transport, specifier) ← Traced.ofExcept (splitTransport s.transports raw)
  if Resolver.isRelative specifier then
    let extensions ← Traced.ofExcept (extensionTexts s.extensions)
    let found ← Resolver.firstFile disk (Resolver.candidates extensions specifier directory)
    return found.map fun path => ⟨path, false, transport⟩
  else return some ⟨specifier, true, transport⟩

-- The importer has a part in the failure only.
def answer (raw : Text) (importer : Option Text) : Option ModuleSpecifier → Traced ModuleSpecifier
  | some module => Traced.pure module
  | none => Traced.fail (.unresolved raw importer)

theorem resolve_search (s : ResolverSettings) (disk : Disk) (raw directory : Text) (importer : Option Text) :
    s.resolve disk raw directory importer = (s.search disk raw directory).bind (answer raw importer) := by
  change Traced.bind _ _ = Traced.bind (Traced.bind _ _) _
  rw [Traced.bind_assoc]
  congr 1
  funext split
  obtain ⟨transport, specifier⟩ := split
  by_cases relative : Resolver.isRelative specifier = true
  · simp only [if_pos relative]
    change Traced.bind _ _ = Traced.bind (Traced.bind _ _) _
    rw [Traced.bind_assoc]
    congr 1
    funext extensions
    change Traced.bind _ _ = Traced.bind (Traced.bind _ _) _
    rw [Traced.bind_assoc]
    congr 1
    funext found
    cases found with
    | none => rfl
    | some path => rfl
  · simp only [if_neg relative]
    rfl

theorem resolve_module_iff (s : ResolverSettings) (disk : Disk) (raw directory : Text) (importer : Option Text)
    (module : ModuleSpecifier) :
    (s.resolve disk raw directory importer).outcome = .ok module ↔
      (s.search disk raw directory).outcome = .ok (some module) := by
  rw [resolve_search]
  constructor
  · intro done
    obtain ⟨found, searched, answered⟩ := Traced.bind_outcome_ok _ _ _ done
    cases found with
    | none => cases answered
    | some other =>
        cases answered
        exact searched
  · intro searched
    rw [Traced.bind_ok _ _ _ searched]
    rfl

-- A disk that leaves it to the resolver to say that a specifier has no file.
def Reserved (disk : Disk) : Prop := ∀ path raw importer, disk path ≠ .error (.unresolved raw importer)

theorem split_transport_reserved (transports : List Json) (raw other : Text) (importer : Option Text) :
    splitTransport transports raw ≠ .error (.unresolved other importer) := by
  induction transports with
  | nil =>
      intro failed
      cases failed
  | cons entry transports ih =>
      cases entry with
      | str tag =>
          rw [splitTransport]
          cases Text.strip? tag raw with
          | none => exact ih
          | some rest =>
              intro failed
              cases failed
      | _ =>
          intro failed
          cases failed

theorem extension_texts_reserved (extensions : List Json) (raw : Text) (importer : Option Text) :
    extensionTexts extensions ≠ .error (.unresolved raw importer) := by
  induction extensions with
  | nil =>
      intro failed
      cases failed
  | cons entry extensions ih =>
      cases entry with
      | str extension =>
          intro failed
          cases rest : extensionTexts extensions with
          | error failure =>
              rw [extensionTexts, rest] at failed
              cases failed
              exact ih rest
          | ok texts =>
              rw [extensionTexts, rest] at failed
              cases failed
      | _ =>
          intro failed
          cases failed

theorem search_reserved (s : ResolverSettings) (disk : Disk) (raw directory other : Text) (importer : Option Text)
    (reserved : Reserved disk) : (s.search disk raw directory).outcome ≠ .error (.unresolved other importer) := by
  intro failed
  rcases Traced.bind_outcome_error _ _ _ failed with ⟨first, _⟩ | ⟨⟨transport, specifier⟩, _, rest⟩
  · exact split_transport_reserved s.transports raw other importer first
  · by_cases relative : Resolver.isRelative specifier = true
    · simp only [if_pos relative] at rest
      rcases Traced.bind_outcome_error _ _ _ rest with ⟨second, _⟩ | ⟨extensions, _, rest⟩
      · exact extension_texts_reserved s.extensions other importer second
      · rcases Traced.bind_outcome_error _ _ _ rest with ⟨probed, _⟩ | ⟨found, _, last⟩
        · obtain ⟨path, _, fault⟩ := Resolver.first_file_fails disk _ _ probed
          exact reserved path other importer fault
        · cases last
    · simp only [if_neg relative] at rest
      cases rest

theorem resolve_unresolved_iff (s : ResolverSettings) (disk : Disk) (raw directory other : Text)
    (importer named : Option Text) (reserved : Reserved disk) :
    (s.resolve disk raw directory importer).outcome = .error (.unresolved other named) ↔
      (other = raw ∧ named = importer) ∧ (s.search disk raw directory).outcome = .ok none := by
  rw [resolve_search]
  constructor
  · intro failed
    rcases Traced.bind_outcome_error _ _ _ failed with ⟨first, _⟩ | ⟨found, searched, answered⟩
    · exact absurd first (search_reserved s disk raw directory other named reserved)
    · cases found with
      | none =>
          cases answered
          exact ⟨⟨rfl, rfl⟩, searched⟩
      | some module => cases answered
  · rintro ⟨⟨sameText, sameImporter⟩, searched⟩
    rw [Traced.bind_ok _ _ _ searched, sameText, sameImporter]
    rfl

end ResolverSettings

namespace Host

theorem check_reserved (t raw : Text) (importer : Option Text) : Path.check t ≠ .error (.unresolved raw importer) := by
  intro failed
  rw [Path.check] at failed
  split at failed
  · cases failed
  · split at failed <;> cases failed

theorem entry_reserved (host : Host) (path : Path) (raw : Text) (importer : Option Text) :
    host.entry path ≠ .error (.unresolved raw importer) := by
  rw [entry_eq, admitted]
  cases checked : Path.check path.text with
  | error failure =>
      intro failed
      cases failed
      exact check_reserved path.text raw importer checked
  | ok _ =>
      rw [Failure.ok_bind]
      intro failed
      split at failed
      · cases failed
      · cases found : host.tree.find (host.absolute path).parts <;> rw [found] at failed <;> cases failed

theorem disk_reserved (host : Host) : ResolverSettings.Reserved host.disk := by
  intro path raw importer failed
  cases asked : host.entry? (Path.ofText path) with
  | ok found =>
      rw [disk, asked] at failed
      cases failed
  | error failure =>
      rw [disk, asked] at failed
      cases failed
      rw [ entry?] at asked
      split at asked
      · cases asked
      · cases asked
      · cases asked
      · rename_i failure _ _ entered
        cases asked
        exact entry_reserved host _ raw importer entered

end Host

end Linkage
