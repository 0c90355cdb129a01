import Linkage.Proofs.ProjectRoot
import Linkage.Proofs.SurveyPartition

set_option autoImplicit false

namespace Linkage

namespace Host

theorem fold_settle_spelled (root : Path.Root) (parts stack result : List Text)
    (names : ∀ part ∈ parts, part ≠ Path.dotDot) (done : parts.foldlM (settleStep root) stack = .ok result) :
    ∀ part ∈ parts, Path.Writable part := by
  induction parts generalizing stack with
  | nil => simp
  | cons part parts ih =>
      obtain ⟨name, others⟩ := List.forall_mem_cons.mp names
      rw [List.foldlM_cons] at done
      obtain ⟨next, stepped, later⟩ := Failure.bind_ok _ _ _ done
      rw [settleStep, if_pos name] at stepped
      obtain ⟨_, checked, _⟩ := Failure.bind_ok _ _ _ stepped
      have written := (Path.text_writable_iff root _).mp ((Path.check_ok_iff _).mp checked)
      exact List.forall_mem_cons.mpr ⟨written part (by simp), ih next others later⟩

theorem settle_spelled (host : Host) (place : Path) (plain : place.Plain) (settled : host.settle place = .ok place) :
    ∀ part ∈ place.parts, Path.Writable part := by
  rw [settle, Path.absolute_of_slash place plain.1] at settled
  obtain ⟨stack, folded, _⟩ := Failure.bind_ok _ _ _ settled
  exact fold_settle_spelled .slash place.parts [] stack plain.2 folded

end Host

namespace Project

variable (host : Host)

theorem root_above (place base project : Path) (own : directoryOf host place = .ok base)
    (rooted : root host place = .ok project) : project.root = base.root ∧ project.parts <+: base.parts := by
  obtain ⟨nearest, found, rest⟩ := Failure.bind_ok _ _ _ rooted
  cases nearest with
  | none =>
      have same : base = project := Except.ok.inj (own.symm.trans rest)
      rw [same]
      exact ⟨rfl, List.prefix_refl _⟩
  | some marked =>
      cases rest
      rw [find_of_base host place base own] at found
      exact Path.ancestor_above base project (first_marked_mem host _ project found)

theorem root_looked (sound : host.Sound) (path place project : Path) (settled : host.settle path = .ok place)
    (rooted : root host place = .ok project) :
    host.settle place = .ok place ∧ (∃ found, host.look place = .ok found) ∧ project.parts <+: place.parts := by
  obtain ⟨_, found, _⟩ := Failure.bind_ok _ _ _ rooted
  obtain ⟨base, own, _⟩ := Failure.bind_ok _ _ _ found
  have above := (root_above host place base project own rooted).2
  obtain ⟨again, resettled, rest⟩ := Failure.bind_ok _ _ _ own
  have same := host.settle_of_plain place again (host.settle_plain sound path place settled) resettled
  rw [same] at resettled rest
  obtain ⟨isFile, asked, rest⟩ := Failure.bind_ok _ _ _ rest
  obtain ⟨seen, looked, _⟩ := Failure.bind_ok _ _ _ asked
  refine ⟨resettled, ⟨seen, looked⟩, ?_⟩
  cases isFile with
  | true =>
      cases rest
      exact above.trans (List.dropLast_prefix place.parts)
  | false =>
      cases rest
      exact above

theorem root_settled (sound : host.Sound) (path place project : Path) (settled : host.settle path = .ok place)
    (rooted : root host place = .ok project) : host.settle project = .ok project := by
  obtain ⟨fixed, _, above⟩ := root_looked host sound path place project settled rooted
  have written := host.settle_spelled place (host.settle_plain sound path place settled) fixed
  exact host.settle_written project (root_plain host sound place project rooted)
    fun part member => written part (above.subset member)

end Project

namespace Survey

section Place

variable (host : Host) (sound : host.Sound) (spelled : FileTree.SpelledIn host.tree) (path place project : Path)
  (settled : host.settle path = .ok place) (rooted : Project.root host place = .ok project)

include sound settled rooted

theorem project_above (entry : Entry) (present : host.look place = .ok (some entry)) :
    project.root = (rootFor place entry).root ∧ project.parts <+: (rootFor place entry).parts := by
  have held := host.held_of_look sound path place entry settled present
  refine Project.root_above host place _ project ?_ rooted
  rw [Project.directory_of_held host place entry held, rootFor]
  cases entry <;> rfl

include spelled

theorem file_in_project (entry : Entry) (present : host.look place = .ok (some entry)) (file : Path)
    (listed : file ∈ FileTree.files place entry) :
    ∃ rest, file = ⟨project.root, project.parts ++ rest⟩ ∧ rest ≠ [] ∧ (∀ part ∈ rest, Path.IsPart part) ∧
      host.settle file = .ok file := by
  have held := host.held_of_look sound path place entry settled present
  obtain ⟨named, names, inside⟩ := host.place_named sound path place entry settled present
  obtain ⟨sameRoot, middle, above⟩ := project_above host sound path place project settled rooted entry present
  obtain ⟨rest, nonempty, form, parts⟩ := files_below_root place entry named names inside file listed
  have base : ∀ part ∈ (rootFor place entry).parts, Path.IsName part := by
    intro part member
    rw [rootFor] at member
    split at member
    · exact names part member
    · exact names part (List.dropLast_subset place.parts member)
  have root : (rootFor place entry).root = .slash := by
    rw [rootFor]
    split
    · exact held.plain.1
    · exact held.plain.1
  have every : ∀ part ∈ file.parts, Path.IsName part := by
    rw [form]
    exact List.forall_mem_append.mpr ⟨base, parts⟩
  have entrySpelled := FileTree.follow_spelled place.parts (.directory host.tree) entry [] spelled held.plain.2 held.found
  refine ⟨middle ++ rest, ?_, List.append_ne_nil_of_right_ne_nil middle nonempty, ?_, ?_⟩
  · rw [form, sameRoot, ← above, List.append_assoc]
  · intro part member
    refine (every part ?_).1
    rw [form, ← above, List.append_assoc]
    exact List.mem_append_right _ member
  · refine host.settle_written file ⟨by rw [form]; exact root, fun part member => (every part member).2⟩ ?_
    exact FileTree.files_spelled place entry entrySpelled held.writable file listed

end Place

end Survey

end Linkage
