import Linkage.FileTree
import Linkage.Proofs.PathText

set_option autoImplicit false

namespace Linkage

namespace FileTree

mutual
def WellNamed : Entry → Prop
  | .file _ => True
  | .directory entries => WellNamedIn entries
def WellNamedIn : List (Text × Entry) → Prop
  | [] => True
  | (name, entry) :: rest =>
      Path.IsName name ∧ (∀ other ∈ rest, other.1 ≠ name) ∧ WellNamed entry ∧ WellNamedIn rest
end

mutual
def decideNamed : (entry : Entry) → Decidable (WellNamed entry)
  | .file _ => .isTrue trivial
  | .directory entries => decideNamedIn entries
def decideNamedIn : (entries : List (Text × Entry)) → Decidable (WellNamedIn entries)
  | [] => .isTrue trivial
  | (name, entry) :: rest =>
      have := decideNamed entry
      have := decideNamedIn rest
      inferInstanceAs (Decidable
        (Path.IsName name ∧ (∀ other ∈ rest, other.1 ≠ name) ∧ WellNamed entry ∧ WellNamedIn rest))
end

instance (tree : FileTree) : Decidable (WellNamedIn tree) := decideNamedIn tree

theorem entry_named (name : Text) (entries : FileTree) (found : Entry) (named : WellNamedIn entries)
    (present : entry? name entries = some found) : Path.IsName name ∧ WellNamed found := by
  induction entries with
  | nil => contradiction
  | cons first rest ih =>
      obtain ⟨other, entry⟩ := first
      by_cases same : other = name
      · simp only [if_pos same, Option.some.injEq, entry?] at present
        rw [← same, ← present]
        exact ⟨named.1, named.2.2.1⟩
      · simp only [if_neg same, entry?] at present
        exact ih named.2.2.2 present

-- What holds of an entry and the directories above it, and of each entry of a directory that it holds of, holds of what a
-- way leads to; each step of the way goes up or to an entry of such a directory.
theorem follow_kept (P : Entry → Prop)
    (kept : ∀ entries name next, P (.directory entries) → entry? name entries = some next → P next) (parts : List Text)
    (here found : Entry) (above : List Entry) (start : P here) (upper : ∀ entry ∈ above, P entry)
    (reached : follow here above parts = .ok found) :
    P found ∧ ∀ part ∈ parts, part = Path.dotDot ∨
      ∃ entries next, P (.directory entries) ∧ entry? part entries = some next := by
  induction parts generalizing here above with
  | nil =>
      simp only [follow] at reached
      cases reached
      exact ⟨start, by simp⟩
  | cons part parts ih =>
      cases here with
      | file content => cases reached
      | directory entries =>
          by_cases up : part = Path.dotDot
          · -- Above the top a step up stays at the top, so both cases go on from an entry that `P` holds of.
            have result : ∃ next more, P next ∧ (∀ entry ∈ more, P entry) ∧ follow next more parts = .ok found := by
              cases above with
              | nil =>
                  simp only [follow, if_pos up] at reached
                  exact ⟨_, [], start, upper, reached⟩
              | cons next more =>
                  simp only [follow, if_pos up] at reached
                  obtain ⟨first, others⟩ := List.forall_mem_cons.mp upper
                  exact ⟨next, more, first, others, reached⟩
            obtain ⟨next, more, nextKept, moreKept, onward⟩ := result
            obtain ⟨ended, later⟩ := ih next more nextKept moreKept onward
            exact ⟨ended, List.forall_mem_cons.mpr ⟨Or.inl up, later⟩⟩
          · simp only [follow, if_neg up] at reached
            split at reached
            · cases reached
            · split at reached
              · cases reached
              · rename_i next present
                obtain ⟨ended, later⟩ := ih next _ (kept entries part next start present)
                  (List.forall_mem_cons.mpr ⟨start, upper⟩) reached
                exact ⟨ended, List.forall_mem_cons.mpr ⟨Or.inr ⟨entries, next, start, present⟩, later⟩⟩

-- A way that leads somewhere goes by names and `..` only, and ends in a tree of the same kind.
theorem follow_named (parts : List Text) (here found : Entry) (above : List Entry) (named : WellNamed here)
    (upper : ∀ entry ∈ above, WellNamed entry) (reached : follow here above parts = .ok found) :
    WellNamed found ∧ ∀ part ∈ parts, part = Path.dotDot ∨ Path.IsName part := by
  obtain ⟨ended, steps⟩ := follow_kept WellNamed
    (fun entries name next own present => (entry_named name entries next own present).2) parts here found above named upper
    reached
  refine ⟨ended, fun part member => (steps part member).imp_right ?_⟩
  rintro ⟨entries, next, own, present⟩
  exact (entry_named part entries next own present).1

theorem follow_name (name : Text) (parts : List Text) (entries : FileTree) (above : List Entry)
    (named : name ≠ Path.dotDot) :
    follow (.directory entries) above (name :: parts) =
      if maxNameSize < nameSize name then .error .nameTooLong
      else match entry? name entries with
        | none => .error .missing
        | some next => follow next (.directory entries :: above) parts :=
  if_neg named

-- Along names it does not matter which directories lie above.
theorem follow_above (parts : List Text) (here : Entry) (above others : List Entry)
    (names : ∀ part ∈ parts, part ≠ Path.dotDot) : follow here above parts = follow here others parts := by
  induction parts generalizing here above others with
  | nil => rfl
  | cons part parts ih =>
      obtain ⟨name, later⟩ := List.forall_mem_cons.mp names
      cases here with
      | file content => rfl
      | directory entries =>
          rw [follow_name part parts entries above name, follow_name part parts entries others name]
          cases entry? part entries with
          | none => rfl
          | some next => simp only [ih next (.directory entries :: above) (.directory entries :: others) later]

theorem follow_append (front back : List Text) (here : Entry) (above : List Entry)
    (names : ∀ part ∈ front ++ back, part ≠ Path.dotDot) :
    follow here above (front ++ back) = (follow here above front).bind fun found => follow found [] back := by
  induction front generalizing here above with
  | nil => exact follow_above back here above [] names
  | cons part front ih =>
      obtain ⟨name, later⟩ := List.forall_mem_cons.mp names
      cases here with
      | file content => rfl
      | directory entries =>
          rw [List.cons_append, follow_name part _ entries above name, follow_name part _ entries above name]
          by_cases long : maxNameSize < nameSize part
          · rw [if_pos long, if_pos long]
            rfl
          · rw [if_neg long, if_neg long]
            cases entry? part entries with
            | none => rfl
            | some next => exact ih next _ later

mutual
theorem files_below (here : Path) (entry : Entry) (named : WellNamed entry) :
    ∀ file ∈ files here entry, ∃ rest, file = ⟨here.root, here.parts ++ rest⟩ ∧
      ∀ part ∈ rest, Path.IsName part := by
  cases entry with
  | file content =>
      intro file member
      have same : file = here := by simpa [files] using member
      exact ⟨[], by simp [same], by simp⟩
  | directory entries =>
      intro file member
      simp only [files] at member
      obtain ⟨name, rest, form, _, names⟩ := files_in_below here entries named file member
      exact ⟨name :: rest, form, names⟩
theorem files_in_below (here : Path) (entries : List (Text × Entry)) (named : WellNamedIn entries) :
    ∀ file ∈ filesIn here entries, ∃ name rest, file = ⟨here.root, here.parts ++ name :: rest⟩ ∧
      (∃ entry, (name, entry) ∈ entries) ∧ ∀ part ∈ name :: rest, Path.IsName part := by
  cases entries with
  | nil => simp [filesIn]
  | cons first others =>
      obtain ⟨name, entry⟩ := first
      intro file member
      simp only [filesIn] at member
      rcases List.mem_append.mp member with own | later
      · obtain ⟨rest, form, names⟩ := files_below (here.child name) entry named.2.2.1 file own
        refine ⟨name, rest, by simpa [Path.child] using form, ⟨entry, List.mem_cons_self⟩, ?_⟩
        exact List.forall_mem_cons.mpr ⟨named.1, names⟩
      · obtain ⟨other, rest, form, ⟨entry, listed⟩, names⟩ := files_in_below here others named.2.2.2 file later
        exact ⟨other, rest, form, ⟨entry, List.mem_cons_of_mem _ listed⟩, names⟩
end

mutual
theorem files_nodup (here : Path) (entry : Entry) (named : WellNamed entry) : (files here entry).Nodup := by
  cases entry with
  | file content => simp [files]
  | directory entries => exact files_in_nodup here entries named
theorem files_in_nodup (here : Path) (entries : List (Text × Entry)) (named : WellNamedIn entries) :
    (filesIn here entries).Nodup := by
  cases entries with
  | nil => simp [filesIn]
  | cons first others =>
      obtain ⟨name, entry⟩ := first
      simp only [filesIn]
      refine List.nodup_append.mpr ⟨files_nodup _ entry named.2.2.1, files_in_nodup here others named.2.2.2, ?_⟩
      -- A file of one entry and a file of a later one differ in the component right below `here`.
      intro file own other later same
      obtain ⟨rest, form, _⟩ := files_below (here.child name) entry named.2.2.1 file own
      obtain ⟨different, more, otherForm, ⟨content, listed⟩, _⟩ := files_in_below here others named.2.2.2 other later
      rw [same, otherForm] at form
      have equal : different = name ∧ more = rest := by simpa [Path.child] using congrArg Path.parts form
      exact named.2.1 (different, content) listed equal.1
end

end FileTree

end Linkage
