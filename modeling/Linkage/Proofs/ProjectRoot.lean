import Linkage.Project
import Linkage.Proofs.PlaceLookup

set_option autoImplicit false

namespace Linkage

namespace Project

variable (host : Host)

theorem directory_of_plain (sound : host.Sound) (path directory : Path) (found : directoryOf host path = .ok directory) :
    directory.Plain := by
  obtain ⟨place, settled, rest⟩ := Failure.bind_ok _ _ _ found
  obtain ⟨isFile, _, last⟩ := Failure.bind_ok _ _ _ rest
  have plain := host.settle_plain sound path place settled
  cases isFile with
  | true =>
      cases last
      exact Path.plain_parent place plain
  | false =>
      cases last
      exact plain

theorem first_marked_mem (paths : List Path) (marked : Path) (found : firstMarked host paths = .ok (some marked)) :
    marked ∈ paths := by
  induction paths with
  | nil => cases found
  | cons path above ih =>
      obtain ⟨isMarked, _, rest⟩ := Failure.bind_ok _ _ _ found
      cases isMarked with
      | true =>
          cases rest
          exact List.mem_cons_self
      | false => exact List.mem_cons_of_mem path (ih rest)

theorem root_plain (sound : host.Sound) (path project : Path) (rooted : root host path = .ok project) :
    project.Plain := by
  obtain ⟨nearest, found, rest⟩ := Failure.bind_ok _ _ _ rooted
  cases nearest with
  | none => exact directory_of_plain host sound path project rest
  | some marked =>
      cases rest
      obtain ⟨directory, own, first⟩ := Failure.bind_ok _ _ _ found
      exact Path.plain_ancestor directory project (directory_of_plain host sound path directory own)
        (first_marked_mem host _ project first)

theorem directory_of_held (place : Path) (entry : Entry) (held : host.Held place entry) :
    directoryOf host place = .ok (if entry.isFile then place.parent else place) := by
  rw [directoryOf, host.settle_held place entry held, Failure.ok_bind, Host.isFile, host.look_held place entry held]
  cases entry <;> rfl

-- A place on the disk has its directory on the disk, and that directory is its own.
theorem base_held (place : Path) (entry : Entry) (held : host.Held place entry) :
    ∃ base entries, directoryOf host place = .ok base ∧ directoryOf host base = .ok base ∧
      host.Held base (.directory entries) := by
  have own := directory_of_held host place entry held
  cases entry with
  | directory entries => exact ⟨place, entries, own, own, held⟩
  | file content =>
      obtain ⟨entries, above⟩ := host.parent_held place content held
      exact ⟨place.parent, entries, own, directory_of_held host place.parent _ above, above⟩

theorem find_of_base (place base : Path) (own : directoryOf host place = .ok base) :
    find host place = firstMarked host base.ancestors := by
  rw [find, own, Failure.ok_bind]

theorem root_of_base (place base : Path) (own : directoryOf host place = .ok base)
    (fixed : directoryOf host base = .ok base) : root host place = root host base := by
  rw [root, root, find_of_base host place base own, find_of_base host base base fixed, own, fixed]

theorem first_marked_none (path : Path) (above : List Path) (unmarked : firstMarked host (path :: above) = .ok none) :
    host.isDirectory (path.child Settings.directoryName) = .ok false := by
  obtain ⟨marked, asked, rest⟩ := Failure.bind_ok _ _ _ unmarked
  cases marked with
  | true => cases rest
  | false => exact asked

theorem first_marked_unmarked (paths : List Path)
    (unmarked : ∀ path ∈ paths, host.isDirectory (path.child Settings.directoryName) = .ok false) :
    firstMarked host paths = .ok none := by
  induction paths with
  | nil => rfl
  | cons path above ih =>
      obtain ⟨first, later⟩ := List.forall_mem_cons.mp unmarked
      rw [firstMarked, first, Failure.ok_bind]
      exact ih later

theorem base_unmarked (place base : Path) (own : directoryOf host place = .ok base) (missing : find host place = .ok none) :
    host.isDirectory (base.child Settings.directoryName) = .ok false := by
  obtain ⟨above, ancestors⟩ := Path.ancestors_self base
  rw [find_of_base host place base own, ancestors] at missing
  exact first_marked_none host base above missing

end Project

end Linkage
