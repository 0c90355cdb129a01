import Linkage.Proofs.ContentChange

set_option autoImplicit false

namespace Linkage

namespace FileTree

-- The entry that a way leads to, given what is at each place. The place that it has come to is kept
-- backwards.
def walk (found : List Text → Except DiskFault Entry) (stack : List Text) : List Text → Except DiskFault Entry
  | [] => found stack.reverse
  | part :: parts =>
      match found stack.reverse with
      | .error fault => .error fault
      | .ok (.file _) => .error .notDirectory
      | .ok (.directory _) => walk found (Path.push true stack part) parts

inductive Standing (tree : FileTree) : List Text → Entry → List Entry → Prop where
  | top : Standing tree [] (.directory tree) []
  | down (name : Text) (stack : List Text) (entries : FileTree) (above : List Entry) (next : Entry)
      (outer : Standing tree stack (.directory entries) above) (named : name ≠ Path.dotDot)
      (short : ¬ maxNameSize < nameSize name) (present : entry? name entries = some next) :
      Standing tree (name :: stack) next (.directory entries :: above)

theorem standing_names (tree : FileTree) (stack : List Text) (here : Entry) (above : List Entry)
    (standing : Standing tree stack here above) : ∀ part ∈ stack, part ≠ Path.dotDot := by
  induction standing with
  | top => simp
  | down name stack entries above next outer named short present ih => exact List.forall_mem_cons.mpr ⟨named, ih⟩

theorem find_below (tree : FileTree) (stack : List Text) (name : Text) (entries : FileTree)
    (names : ∀ part ∈ name :: stack, part ≠ Path.dotDot) (found : tree.find stack.reverse = .ok (.directory entries)) :
    tree.find (name :: stack).reverse = follow (.directory entries) [] [name] := by
  rw [List.reverse_cons, find_append tree stack.reverse [name] (by simpa [or_comm] using names), found]
  rfl

theorem standing_found (tree : FileTree) (stack : List Text) (here : Entry) (above : List Entry)
    (standing : Standing tree stack here above) : tree.find stack.reverse = .ok here := by
  induction standing with
  | top => rfl
  | down name stack entries above next outer named short present ih =>
      have names : ∀ part ∈ name :: stack, part ≠ Path.dotDot :=
        List.forall_mem_cons.mpr ⟨named, standing_names tree stack _ above outer⟩
      rw [find_below tree stack name entries names ih, follow_name name [] entries [] named, if_neg short, present]
      rfl

theorem walk_fault (found : List Text → Except DiskFault Entry) (stack parts : List Text) (fault : DiskFault)
    (blocked : found stack.reverse = .error fault) : walk found stack parts = .error fault := by
  cases parts with
  | nil => exact blocked
  | cons part parts => simp only [walk, blocked]

theorem follow_walk (tree : FileTree) (parts stack : List Text) (here : Entry) (above : List Entry)
    (standing : Standing tree stack here above) : follow here above parts = walk tree.find stack parts := by
  induction parts generalizing stack here above with
  | nil => exact (standing_found tree stack here above standing).symm
  | cons part parts ih =>
      have found := standing_found tree stack here above standing
      cases here with
      | file content =>
          simp only [walk, found]
          rfl
      | directory entries =>
          simp only [walk, found]
          by_cases up : part = Path.dotDot
          · cases standing with
            | top =>
                rw [up, follow, if_pos rfl]
                exact ih [] _ [] .top
            | down name stack outside above _ outer named short present =>
                rw [up, follow, if_pos rfl]
                have popped : Path.push true (name :: stack) Path.dotDot = stack := by
                  simp only [Path.push, if_true, if_neg named]
                rw [popped]
                exact ih stack _ above outer
          · have names : ∀ other ∈ part :: stack, other ≠ Path.dotDot :=
              List.forall_mem_cons.mpr ⟨up, standing_names tree stack _ above standing⟩
            have below := find_below tree stack part entries names found
            rw [follow_name part [] entries [] up] at below
            rw [Path.push_name true stack part up, follow_name part parts entries above up]
            by_cases long : maxNameSize < nameSize part
            · rw [if_pos long] at below ⊢
              exact (walk_fault tree.find (part :: stack) parts _ below).symm
            · rw [if_neg long] at below ⊢
              cases present : entry? part entries with
              | none =>
                  rw [present] at below
                  exact (walk_fault tree.find (part :: stack) parts _ below).symm
              | some next =>
                  exact ih (part :: stack) next _ (.down part stack entries above next standing up long present)

theorem walk_reached (found : List Text → Except DiskFault Entry) (parts stack : List Text) (entry : Entry)
    (reached : walk found stack parts = .ok entry) :
    found (parts.foldl (Path.push true) stack).reverse = .ok entry := by
  induction parts generalizing stack with
  | nil => exact reached
  | cons part parts ih =>
      rw [walk] at reached
      split at reached
      · cases reached
      · cases reached
      · exact ih _ reached

theorem push_names (stack : List Text) (part : Text) (names : ∀ other ∈ stack, other ≠ Path.dotDot) :
    ∀ other ∈ Path.push true stack part, other ≠ Path.dotDot := by
  by_cases up : part = Path.dotDot
  · cases stack with
    | nil => simp [Path.push, up]
    | cons top rest =>
        obtain ⟨first, later⟩ := List.forall_mem_cons.mp names
        simpa only [Path.push, if_pos up, if_neg first] using later
  · rw [Path.push_name true stack part up]
    exact List.forall_mem_cons.mpr ⟨up, names⟩

-- What a look-up comes to with a file and without it, where `way` leads to the file and `place` is
-- where the look-up ends.
inductive Outlives (way place : List Text) : Except DiskFault Entry → Except DiskFault Entry → Prop where
  | fault (fault : DiskFault) : Outlives way place (.error fault) (.error fault)
  | file (content : Bytes) (elsewhere : place ≠ way) :
      Outlives way place (.ok (.file content)) (.ok (.file content))
  | directory (entries others : FileTree) : Outlives way place (.ok (.directory entries)) (.ok (.directory others))
  | gone (content : Bytes) (hit : place = way) : Outlives way place (.ok (.file content)) (.error .missing)
  | blocked : Outlives way place (.error .notDirectory) (.error .missing)

theorem outlives_self (way place : List Text) (elsewhere : place ≠ way) (answer : Except DiskFault Entry) :
    Outlives way place answer answer := by
  cases answer with
  | error fault => exact .fault fault
  | ok entry =>
      cases entry with
      | file content => exact .file content elsewhere
      | directory entries => exact .directory entries entries

theorem outlives_below (name : Text) (way place : List Text) (before after : Except DiskFault Entry)
    (outlives : Outlives way place before after) : Outlives (name :: way) (name :: place) before after := by
  cases outlives with
  | fault fault => exact .fault fault
  | file content elsewhere => exact .file content fun same => elsewhere (List.cons.inj same).2
  | directory entries others => exact .directory entries others
  | gone content hit => exact .gone content (by rw [hit])
  | blocked => exact .blocked

theorem entry_filter (name query : Text) (tree : FileTree) :
    entry? query (tree.filter fun (other, _) => other ≠ name) = if query = name then none else entry? query tree := by
  induction tree with
  | nil => simp [ entry?]
  | cons first rest ih =>
      obtain ⟨other, entry⟩ := first
      by_cases removed : other = name
      · rw [List.filter_cons_of_neg (by simpa using removed), ih]
        by_cases asked : query = name
        · rw [if_pos asked, if_pos asked]
        · have different : other ≠ query := fun same => asked (same ▸ removed)
          rw [if_neg asked, if_neg asked, entry?, if_neg different]
      · rw [List.filter_cons_of_pos (by simpa using removed), entry?, entry?, ih]
        by_cases hit : other = query
        · rw [if_pos hit, if_pos hit, if_neg fun asked => removed (hit.trans asked)]
        · rw [if_neg hit, if_neg hit]

-- A way that leaves the one to the file at the first step does not notice what was done behind that step.
theorem follow_aside (name part : Text) (way parts : List Text) (tree fresh : FileTree) (above others : List Entry)
    (different : part ≠ name) (names : ∀ other ∈ part :: parts, other ≠ Path.dotDot)
    (same : entry? part fresh = entry? part tree) :
    Outlives (name :: way) (part :: parts) (follow (.directory tree) above (part :: parts))
      (follow (.directory fresh) others (part :: parts)) := by
  obtain ⟨named, later⟩ := List.forall_mem_cons.mp names
  have alike : follow (.directory fresh) others (part :: parts) = follow (.directory tree) above (part :: parts) := by
    rw [follow_name part parts _ _ named, follow_name part parts _ _ named, same]
    cases entry? part tree with
    | none => rfl
    | some next => simp only [follow_above parts next (.directory fresh :: others) (.directory tree :: above) later]
  rw [alike]
  exact outlives_self _ _ (fun equal => different (List.cons.inj equal).1) _

theorem follow_erase (way place : List Text) (tree : FileTree) (above others : List Entry) (old : Bytes)
    (names : ∀ part ∈ way, part ≠ Path.dotDot) (placeNames : ∀ part ∈ place, part ≠ Path.dotDot)
    (reached : follow (.directory tree) above way = .ok (.file old)) :
    Outlives way place (follow (.directory tree) above place) (follow (.directory (erase tree way)) others place) := by
  induction way generalizing place tree above others with
  | nil => cases reached
  | cons name way ih =>
      obtain ⟨named, later⟩ := List.forall_mem_cons.mp names
      rw [follow_name name way tree above named] at reached
      split at reached
      · cases reached
      · rename_i short
        split at reached
        · cases reached
        · rename_i next present
          cases place with
          | nil => exact .directory _ _
          | cons part parts =>
              obtain ⟨_, partsNamed⟩ := List.forall_mem_cons.mp placeNames
              cases way with
              | nil =>
                  cases reached
                  by_cases hit : part = name
                  · have removed : entry? name (erase tree [name]) = none := by
                      rw [erase, entry_filter, if_pos rfl]
                    rw [hit, follow_name name parts _ _ named, follow_name name parts _ _ named, if_neg short,
                      if_neg short, present, removed]
                    cases parts with
                    | nil => exact .gone old rfl
                    | cons more parts => exact .blocked
                  · exact follow_aside name part [] parts tree _ above others hit placeNames
                      (by rw [erase, entry_filter, if_neg hit])
              | cons second way =>
                  cases next with
                  | file content => cases reached
                  | directory entries =>
                      have erased : erase tree (name :: second :: way) =
                          setEntry name (.directory (erase entries (second :: way))) tree := by
                        simp only [erase, present]
                      rw [erased]
                      by_cases hit : part = name
                      · rw [hit, follow_name name parts _ _ named, follow_name name parts _ _ named, if_neg short,
                          if_neg short, present, entry?_setEntry_self]
                        exact outlives_below name _ _ _ _ (ih parts entries _ _ later partsNamed reached)
                      · exact follow_aside name part _ parts tree _ above others hit placeNames
                          (entry?_setEntry_of_ne hit _ tree)

theorem find_erase (tree : FileTree) (way place : List Text) (old : Bytes) (names : ∀ part ∈ way, part ≠ Path.dotDot)
    (placeNames : ∀ part ∈ place, part ≠ Path.dotDot) (regular : tree.find way = .ok (.file old)) :
    Outlives way place (tree.find place) ((erase tree way).find place) :=
  follow_erase way place tree [] [] old names placeNames regular

theorem walk_erase (tree : FileTree) (way parts stack : List Text) (old : Bytes)
    (names : ∀ part ∈ way, part ≠ Path.dotDot) (stackNames : ∀ part ∈ stack, part ≠ Path.dotDot)
    (regular : tree.find way = .ok (.file old)) :
    Outlives way (parts.foldl (Path.push true) stack).reverse (walk tree.find stack parts)
      (walk (erase tree way).find stack parts) := by
  have here := find_erase tree way stack.reverse old names (by simpa using stackNames) regular
  induction parts generalizing stack with
  | nil => exact here
  | cons part parts ih =>
      have pushed := push_names stack part stackNames
      have onward := ih (Path.push true stack part) pushed
        (find_erase tree way _ old names (by simpa using pushed) regular)
      simp only [walk, List.foldl_cons]
      generalize tree.find stack.reverse = before at here ⊢
      generalize (erase tree way).find stack.reverse = after at here ⊢
      cases here with
      | fault fault => exact .fault fault
      | file content elsewhere => exact .fault .notDirectory
      | directory entries others => exact onward
      | gone content hit => exact .blocked
      | blocked => exact .blocked

end FileTree

namespace Host

def without (host : Host) (file : Path) : Host := { host with tree := FileTree.erase host.tree (host.lands file).parts }

variable (host : Host)

theorem lands_names (path : Path) : ∀ part ∈ (host.lands path).parts, part ≠ Path.dotDot :=
  Path.collapse_rooted _ rfl

theorem find_walk (path : Path) :
    host.tree.find (host.absolute path).parts = FileTree.walk host.tree.find [] (host.absolute path).parts :=
  FileTree.follow_walk host.tree _ [] _ [] .top

section Removal

variable (file : Path) (content : Bytes) (present : host.look file = .ok (some (.file content)))

include present

theorem lands_file : host.tree.find (host.lands file).parts = .ok (.file content) := by
  have reached := (entry_ok host file _ (look_some host file _ present)).2
  rw [find_walk] at reached
  exact FileTree.walk_reached _ _ [] _ reached

theorem find_without (path : Path) :
    FileTree.Outlives (host.lands file).parts (host.lands path).parts (host.tree.find (host.absolute path).parts)
      ((host.without file).tree.find (host.absolute path).parts) := by
  have after : (host.without file).tree.find (host.absolute path).parts =
      FileTree.walk (host.without file).tree.find [] (host.absolute path).parts := find_walk (host.without file) path
  rw [find_walk, after]
  exact FileTree.walk_erase host.tree _ (host.absolute path).parts [] content (lands_names host file) (by simp)
    (lands_file host file content present)

theorem look_without : (host.without file).look file = .ok none := by
  have reached := look_some host file _ present
  have outlives := find_without host file content present file
  rw [(entry_ok host file _ reached).2] at outlives
  have failed : (host.without file).entry file = .error (.disk .missing file.text) := by
    rw [entry_eq] at reached
    have same : (host.without file).absolute file = host.absolute file := rfl
    rw [entry_eq, same]
    rcases admitted_cases file with ⟨failure, refused⟩ | passed
    · rw [refused] at reached
      cases reached
    · rw [passed]
      generalize (host.without file).tree.find (host.absolute file).parts = after at outlives ⊢
      cases outlives with
      | file _ elsewhere => exact absurd rfl elsewhere
      | gone _ _ => rfl
  simp only [look, entry?, failed]

-- Another path is answered as before, unless it went through the file; then there was nothing at it,
-- and there still is nothing.
theorem entry_without (path : Path) (elsewhere : (host.lands path).parts ≠ (host.lands file).parts) :
    (host.without file).entry path = host.entry path ∨
    (∃ entries others, host.entry path = .ok (.directory entries) ∧
      (host.without file).entry path = .ok (.directory others)) ∨
    (host.entry path = .error (.disk .notDirectory path.text) ∧
      (host.without file).entry path = .error (.disk .missing path.text)) := by
  have outlives := find_without host file content present path
  have same : (host.without file).absolute path = host.absolute path := rfl
  rw [entry_eq, entry_eq, same]
  rcases admitted_cases path with ⟨failure, refused⟩ | passed
  · exact Or.inl (by rw [refused, refused])
  · rw [passed, passed]
    generalize host.tree.find (host.absolute path).parts = before at outlives ⊢
    generalize (host.without file).tree.find (host.absolute path).parts = after at outlives ⊢
    cases outlives with
    | fault fault => exact Or.inl rfl
    | file content elsewhere => exact Or.inl rfl
    | directory entries others => exact Or.inr (Or.inl ⟨entries, others, rfl, rfl⟩)
    | gone content hit => exact absurd hit elsewhere
    | blocked => exact Or.inr (Or.inr ⟨rfl, rfl⟩)

theorem is_file_without (path : Path) (elsewhere : (host.lands path).parts ≠ (host.lands file).parts) :
    (host.without file).isFile path = host.isFile path := by
  rcases entry_without host file content present path elsewhere with same | ⟨entries, others, before, after⟩ |
    ⟨before, after⟩
  · simp only [isFile, look, entry?, same]
  · simp only [isFile, look, entry?, before, after]
    rfl
  · simp only [isFile, look, entry?, before, after]

theorem read_without (path : Path) (elsewhere : (host.lands path).parts ≠ (host.lands file).parts)
    (regular : host.isFile path = .ok true) : (host.without file).read path = host.read path := by
  rcases entry_without host file content present path elsewhere with same | ⟨entries, others, before, _⟩ | ⟨before, _⟩
  · rw [read, read, same]
  · simp only [isFile, look, entry?, before] at regular
    cases regular
  · simp only [isFile, look, entry?, before] at regular
    cases regular

end Removal

end Host

end Linkage
