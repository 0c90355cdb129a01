import Linkage.Bundle
import Linkage.Proofs.PathsBelow
import Linkage.Proofs.ProjectRoot

set_option autoImplicit false

namespace Linkage

namespace FileTree

def chain : List Text → FileTree
  | [] => []
  | name :: names => [(name, .directory (chain names))]

theorem chain_named (names : List Text) (named : ∀ name ∈ names, Path.IsName name) : WellNamedIn (chain names) := by
  induction names with
  | nil => exact trivial
  | cons name names ih =>
      obtain ⟨first, later⟩ := List.forall_mem_cons.mp named
      exact ⟨first, by simp, ih later, trivial⟩

theorem chain_spelled (names : List Text) (written : ∀ name ∈ names, Path.Writable name) : SpelledIn (chain names) := by
  induction names with
  | nil => exact trivial
  | cons name names ih =>
      obtain ⟨first, later⟩ := List.forall_mem_cons.mp written
      exact ⟨first, ih later, trivial⟩

theorem find_chain (front back : List Text) (named : ∀ name ∈ front, name ≠ Path.dotDot)
    (short : ∀ name ∈ front, nameSize name ≤ maxNameSize) :
    (chain (front ++ back)).find front = .ok (.directory (chain back)) := by
  induction front with
  | nil => rfl
  | cons name front ih =>
      obtain ⟨first, later⟩ := List.forall_mem_cons.mp named
      obtain ⟨fits, laterFits⟩ := List.forall_mem_cons.mp short
      have own : entry? name (chain (name :: (front ++ back))) = some (.directory (chain (front ++ back))) := by
        rw [chain, entry?, if_pos rfl]
      rw [find, List.cons_append, follow_name name front _ [] first, if_neg (Nat.not_lt.mpr fits), own]
      exact (follow_above front _ _ [] later).trans (ih later laterFits)

theorem chain_within (name : Text) (names : List Text) (next : Entry) (present : entry? name (chain names) = some next) :
    ∃ rest, next = .directory (chain rest) := by
  cases names with
  | nil => cases present
  | cons first rest =>
      rw [chain, entry?] at present
      split at present
      · exact ⟨rest, (Option.some.inj present).symm⟩
      · cases present

theorem chain_without_files (names parts : List Text) (found : Entry)
    (reached : (chain names).find parts = .ok found) : found.isFile = false := by
  have kept : ∀ entries name next, (∃ rest, Entry.directory entries = .directory (chain rest)) →
      entry? name entries = some next → ∃ rest, next = .directory (chain rest) := by
    rintro entries name next ⟨rest, same⟩ present
    cases same
    exact chain_within name rest next present
  obtain ⟨⟨rest, rfl⟩, _⟩ := follow_kept (fun entry => ∃ rest, entry = .directory (chain rest)) kept parts
    (.directory (chain names)) found [] ⟨names, rfl⟩ (by simp) reached
  rfl

theorem entry_chain (name : Text) (names : List Text) (other : name ∉ names) : entry? name (chain names) = none := by
  cases names with
  | nil => rfl
  | cons first names =>
      have different : first ≠ name := fun same => other (same ▸ List.mem_cons_self)
      rw [chain, entry?, if_neg different, entry?]

end FileTree

namespace Path

-- A name that a disk can hold, other than that of a settings directory.
structure Stored (name : Text) : Prop where
  named : IsName name
  written : Writable name
  short : FileTree.nameSize name ≤ FileTree.maxNameSize
  other : name ≠ Settings.directoryName

-- `/proj` and fifteen directories with 254 letters each, then one of the given number of letters.
def deepNames (letters : Nat) : List Text :=
  Text.ofString "proj" :: List.replicate 15 (List.replicate 254 (.scalar 'a')) ++ [List.replicate letters (.scalar 'a')]

theorem letters_stored (count : Nat) (more : 0 < count) (few : count ≤ FileTree.maxNameSize) :
    Stored (List.replicate count (.scalar 'a')) := by
  have only : ∀ p ∈ List.replicate count (CodePoint.scalar 'a'), p = .scalar 'a' := fun p => List.eq_of_mem_replicate
  have inside : CodePoint.scalar 'a' ∈ List.replicate count (CodePoint.scalar 'a') :=
    List.mem_replicate.mpr ⟨Nat.ne_of_gt more, rfl⟩
  have size (n : Nat) : FileTree.nameSize (List.replicate n (.scalar 'a')) = n := by
    induction n with
    | zero => rfl
    | succ n ih =>
        have letter : ('a' : Char).utf8Size = 1 := by decide
        rw [List.replicate_succ, FileTree.nameSize, ih, letter, Nat.add_comm]
  -- The other names that are told apart here have no letter `a` in them, or something else.
  have not (name : Text) (strange : CodePoint.scalar 'a' ∉ name ∨ ∃ p ∈ name, p ≠ .scalar 'a') :
      List.replicate count (.scalar 'a') ≠ name := by
    rintro rfl
    rcases strange with absent | ⟨p, member, different⟩
    · exact absent inside
    · exact different (only p member)
  refine ⟨⟨⟨not [] (Or.inl (by simp)), not dot (Or.inl (by decide)), ?_⟩, not dotDot (Or.inl (by decide))⟩, ?_,
    by rw [size]; exact few, not _ (Or.inr ⟨.scalar '.', by decide, by decide⟩)⟩
  · intro member
    exact absurd (only _ member) (by decide)
  · intro p member
    rw [only p member]
    decide

theorem deep_stored (letters : Nat) (more : 0 < letters) (few : letters ≤ FileTree.maxNameSize) :
    ∀ name ∈ deepNames letters, Stored name := by
  have first : Stored (Text.ofString "proj") :=
    ⟨by decide, by decide, by decide, by decide⟩
  intro name member
  rcases List.mem_append.mp member with front | last
  · rcases List.mem_cons.mp front with rfl | middle
    · exact first
    · rw [List.eq_of_mem_replicate middle]
      exact letters_stored 254 (by decide) (by decide)
  · rw [List.mem_singleton.mp last]
    exact letters_stored letters more few

end Path

namespace Host

def deep (names : List Text) : Host :=
  .bundled (FileTree.chain names) ⟨.slash, []⟩ ⟨.slash, [Text.ofString "home"]⟩

theorem deep_without_files (names : List Text) (path : Path) : (deep names).isFile path ≠ .ok true := by
  intro asked
  obtain ⟨found, looked, answered⟩ := Failure.bind_ok _ _ _ asked
  cases found with
  | none => cases answered
  | some entry =>
      obtain ⟨_, reached⟩ := entry_ok (deep names) path entry (look_some (deep names) path entry looked)
      have directory := FileTree.chain_without_files names _ entry reached
      rw [Option.any_some, directory] at answered
      cases answered

section Deep

variable (names : List Text) (stored : ∀ name ∈ names, Path.Stored name)

include stored

theorem deep_sound : (deep names).Sound where
  directory := rfl
  tree := FileTree.chain_named names fun name member => (stored name member).named

theorem deep_spelled : FileTree.SpelledIn (deep names).tree :=
  FileTree.chain_spelled names fun name member => (stored name member).written

theorem deep_found (front back : List Text) (split : front ++ back = names) :
    (deep names).tree.find front = .ok (.directory (FileTree.chain back)) := by
  have listed : ∀ name ∈ front, name ∈ names := fun name member => split ▸ List.mem_append_left back member
  rw [deep, ← split]
  exact FileTree.find_chain front back (fun name member => (stored name (listed name member)).named.2)
    fun name member => (stored name (listed name member)).short

theorem deep_held (fits : FileTree.nameSize (Path.text ⟨.slash, names⟩) ≤ Path.maxSize) :
    (deep names).Held ⟨.slash, names⟩ (.directory []) where
  plain := ⟨rfl, fun name member => (stored name member).named.2⟩
  writable := fun name member => (stored name member).written
  fits := fits
  found := deep_found names stored names [] (List.append_nil _)

theorem deep_finds (fits : FileTree.nameSize (Path.text ⟨.slash, names⟩) ≤ Path.maxSize) :
    (deep names).Finds ⟨.slash, names⟩ ⟨.slash, names⟩ (.directory []) where
  settled := (deep names).settle_held _ _ (deep_held names stored fits)
  present := (deep names).look_held _ _ (deep_held names stored fits)

theorem deep_unrooted (fits : FileTree.nameSize (Path.text ⟨.slash, names⟩) ≤ Path.maxSize)
    (long : Path.maxSize < FileTree.nameSize (Path.child ⟨.slash, names⟩ Settings.directoryName).text) :
    Project.root (deep names) ⟨.slash, names⟩ =
      .error (.disk .nameTooLong (Path.child ⟨.slash, names⟩ Settings.directoryName).text) := by
  have held := deep_held names stored fits
  have own := Project.directory_of_held (deep names) _ _ held
  obtain ⟨above, ancestors⟩ := Path.ancestors_self ⟨.slash, names⟩
  have marker := Path.plain_child _ Settings.directoryName held.plain (by decide)
  have written := Path.writable_child _ Settings.directoryName held.writable (by decide)
  have asked : Project.firstMarked (deep names) (Path.ancestors ⟨.slash, names⟩) =
      .error (.disk .nameTooLong (Path.child ⟨.slash, names⟩ Settings.directoryName).text) := by
    rw [ancestors, Project.firstMarked, isDirectory, look_long (deep names) _ marker written long]
    rfl
  rw [Project.root, Project.find_of_base (deep names) _ _ own]
  exact congrArg (· >>= _) asked

end Deep

-- A directory whose path leaves no room for the name of a settings directory in it.
def full : Host := deep (Path.deepNames 255)

def fullPlace : Path := ⟨.slash, Path.deepNames 255⟩

theorem full_fits : FileTree.nameSize fullPlace.text ≤ Path.maxSize := by decide +kernel

theorem full_stored : ∀ name ∈ Path.deepNames 255, Path.Stored name := Path.deep_stored 255 (by decide) (by decide)

theorem full_finds : full.Finds fullPlace fullPlace (.directory []) := deep_finds _ full_stored full_fits

theorem full_unrooted :
    Project.root full fullPlace = .error (.disk .nameTooLong (fullPlace.child Settings.directoryName).text) :=
  deep_unrooted _ full_stored full_fits (by decide +kernel)

-- A project with one file, next to directories one in the other, further down than a path can say.
def crowdedEntries : FileTree :=
  (Text.ofString ".modgraph", .directory []) :: (Text.ofString "f.js", .file []) ::
    FileTree.chain (List.replicate 16 (List.replicate 255 (.scalar 'a')))

def crowded : Host :=
  .bundled [(Text.ofString "p", .directory crowdedEntries)] ⟨.slash, []⟩ ⟨.slash, [Text.ofString "home"]⟩

def crowdedPlace : Path := ⟨.slash, [Text.ofString "p"]⟩

def crowdedFile : Path := ⟨.slash, [Text.ofString "p", Text.ofString "f.js"]⟩

theorem crowded_stored : ∀ name ∈ List.replicate 16 (List.replicate 255 (CodePoint.scalar 'a')), Path.Stored name := by
  intro name member
  rw [List.eq_of_mem_replicate member]
  exact Path.letters_stored 255 (by decide) (by decide)

theorem crowded_sound : crowded.Sound where
  directory := rfl
  tree := by
    have below := FileTree.chain_named _ fun name member => (crowded_stored name member).named
    exact ⟨by decide, by simp, ⟨by decide, by decide, trivial, by decide, by decide, trivial, below⟩, trivial⟩

theorem crowded_spelled : FileTree.SpelledIn crowded.tree := by
  have below := FileTree.chain_spelled _ fun name member => (crowded_stored name member).written
  exact ⟨by decide, ⟨by decide, trivial, by decide, trivial, below⟩, trivial⟩

theorem crowded_blocked : ∃ p, FileTree.blocked? crowdedPlace (.directory crowdedEntries) = some p :=
  Option.isSome_iff_exists.mp (by decide +kernel)

end Host

end Linkage
