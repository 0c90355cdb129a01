import Linkage.Proofs.PlaceLookup

set_option autoImplicit false

namespace Linkage

namespace FileTree

mutual
def Spelled : Entry → Prop
  | .file _ => True
  | .directory entries => SpelledIn entries
def SpelledIn : List (Text × Entry) → Prop
  | [] => True
  | (name, entry) :: rest => Path.Writable name ∧ Spelled entry ∧ SpelledIn rest
end

mutual
def decideSpelled : (entry : Entry) → Decidable (Spelled entry)
  | .file _ => .isTrue trivial
  | .directory entries => decideSpelledIn entries
def decideSpelledIn : (entries : List (Text × Entry)) → Decidable (SpelledIn entries)
  | [] => .isTrue trivial
  | (name, entry) :: rest =>
      have := decideSpelled entry
      have := decideSpelledIn rest
      inferInstanceAs (Decidable (Path.Writable name ∧ Spelled entry ∧ SpelledIn rest))
end

instance (tree : FileTree) : Decidable (SpelledIn tree) := decideSpelledIn tree

theorem entry_spelled (name : Text) (entries : FileTree) (found : Entry) (spelled : SpelledIn entries)
    (present : entry? name entries = some found) : Spelled found := by
  induction entries with
  | nil => contradiction
  | cons first rest ih =>
      obtain ⟨other, entry⟩ := first
      rw [ entry?] at present
      split at present
      · cases present
        exact spelled.2.1
      · exact ih spelled.2.2 present

theorem follow_spelled (parts : List Text) (here found : Entry) (above : List Entry) (spelled : Spelled here)
    (names : ∀ part ∈ parts, part ≠ Path.dotDot) (reached : follow here above parts = .ok found) : Spelled found := by
  induction parts generalizing here above with
  | nil =>
      cases reached
      exact spelled
  | cons part parts ih =>
      obtain ⟨name, later⟩ := List.forall_mem_cons.mp names
      cases here with
      | file content => cases reached
      | directory entries =>
          rw [follow_name part parts entries above name] at reached
          split at reached
          · cases reached
          · split at reached
            · cases reached
            · rename_i next present
              exact ih next _ (entry_spelled part entries next spelled present) later reached

mutual
theorem files_spelled (here : Path) (entry : Entry) (spelled : Spelled entry)
    (written : ∀ part ∈ here.parts, Path.Writable part) :
    ∀ file ∈ files here entry, ∀ part ∈ file.parts, Path.Writable part := by
  cases entry with
  | file content =>
      intro file member
      have same : file = here := by simpa [files] using member
      rw [same]
      exact written
  | directory entries => exact files_in_spelled here entries spelled written
theorem files_in_spelled (here : Path) (entries : List (Text × Entry)) (spelled : SpelledIn entries)
    (written : ∀ part ∈ here.parts, Path.Writable part) :
    ∀ file ∈ filesIn here entries, ∀ part ∈ file.parts, Path.Writable part := by
  cases entries with
  | nil => simp [filesIn]
  | cons first others =>
      obtain ⟨name, entry⟩ := first
      intro file member
      rw [filesIn] at member
      rcases List.mem_append.mp member with own | later
      · exact files_spelled (here.child name) entry spelled.2.1 (Path.writable_child here name written spelled.1) file own
      · exact files_in_spelled here others spelled.2.2 written file later
end

-- A chain of names, each of an entry of the directory before it.
inductive Leads : Entry → List Text → Entry → Prop where
  | here (entry : Entry) : Leads entry [] entry
  | step (name : Text) (entries : FileTree) (next found : Entry) (rest : List Text) (listed : (name, next) ∈ entries)
      (onward : Leads next rest found) : Leads (.directory entries) (name :: rest) found

theorem leads_from_file (content : Bytes) (rest : List Text) (found : Entry) (chain : Leads (.file content) rest found) :
    rest = [] ∧ found = .file content := by
  cases chain
  exact ⟨rfl, rfl⟩

mutual
theorem mem_files_iff (here file : Path) (entry : Entry) :
    file ∈ files here entry ↔
      ∃ rest content, file = ⟨here.root, here.parts ++ rest⟩ ∧ Leads entry rest (.file content) := by
  cases entry with
  | file content =>
      rw [files, List.mem_singleton]
      constructor
      · intro same
        exact ⟨[], content, by rw [same, List.append_nil], .here _⟩
      · rintro ⟨rest, other, form, chain⟩
        rw [form, (leads_from_file content rest _ chain).1, List.append_nil]
  | directory entries =>
      rw [files, mem_files_in_iff here file entries]
      constructor
      · rintro ⟨name, next, rest, content, listed, form, chain⟩
        exact ⟨name :: rest, content, form, .step name entries next _ rest listed chain⟩
      · rintro ⟨rest, content, form, chain⟩
        cases chain with
        | step name _ next _ rest listed onward => exact ⟨name, next, rest, content, listed, form, onward⟩
theorem mem_files_in_iff (here file : Path) (entries : List (Text × Entry)) :
    file ∈ filesIn here entries ↔
      ∃ name next rest content, (name, next) ∈ entries ∧ file = ⟨here.root, here.parts ++ name :: rest⟩ ∧
        Leads next rest (.file content) := by
  cases entries with
  | nil => simp [filesIn]
  | cons first others =>
      obtain ⟨own, entry⟩ := first
      rw [filesIn, List.mem_append, mem_files_iff (here.child own) file entry, mem_files_in_iff here file others]
      simp only [Path.child, List.append_assoc, List.singleton_append]
      constructor
      · rintro (⟨rest, content, form, chain⟩ | ⟨name, next, rest, content, listed, form, chain⟩)
        · exact ⟨own, entry, rest, content, List.mem_cons_self, form, chain⟩
        · exact ⟨name, next, rest, content, List.mem_cons_of_mem _ listed, form, chain⟩
      · rintro ⟨name, next, rest, content, listed, form, chain⟩
        rcases List.mem_cons.mp listed with same | later
        · cases same
          exact Or.inl ⟨rest, content, form, chain⟩
        · exact Or.inr ⟨name, next, rest, content, later, form, chain⟩
end

theorem mem_entry (name : Text) (entries : FileTree) (next : Entry) (named : WellNamedIn entries)
    (listed : (name, next) ∈ entries) : entry? name entries = some next ∧ Path.IsName name ∧ WellNamed next := by
  induction entries with
  | nil => simp at listed
  | cons first others ih =>
      obtain ⟨own, entry⟩ := first
      rcases List.mem_cons.mp listed with same | later
      · cases same
        exact ⟨if_pos rfl, named.1, named.2.2.1⟩
      · obtain ⟨present, isName, inner⟩ := ih named.2.2.2 later
        have other : own ≠ name := fun same => named.2.1 (name, next) later same.symm
        exact ⟨(if_neg other).trans present, isName, inner⟩

theorem mem_spelled (name : Text) (entries : FileTree) (next : Entry) (spelled : SpelledIn entries)
    (listed : (name, next) ∈ entries) : Path.Writable name ∧ Spelled next := by
  induction entries with
  | nil => simp at listed
  | cons first others ih =>
      rcases List.mem_cons.mp listed with same | later
      · cases same
        exact ⟨spelled.1, spelled.2.1⟩
      · exact ih spelled.2.2 later

theorem leads_named (entry found : Entry) (rest : List Text) (named : WellNamed entry) (chain : Leads entry rest found) :
    ∀ part ∈ rest, Path.IsName part := by
  induction chain with
  | here entry => simp
  | step name entries next found rest listed _ ih =>
      obtain ⟨_, isName, inner⟩ := mem_entry name entries next named listed
      exact List.forall_mem_cons.mpr ⟨isName, ih inner⟩

theorem leads_spelled (entry found : Entry) (rest : List Text) (spelled : Spelled entry)
    (chain : Leads entry rest found) : ∀ part ∈ rest, Path.Writable part := by
  induction chain with
  | here entry => simp
  | step name entries next found rest listed _ ih =>
      obtain ⟨written, inner⟩ := mem_spelled name entries next spelled listed
      exact List.forall_mem_cons.mpr ⟨written, ih inner⟩

-- Looking up a chain of entries finds its end, or the first name on it that is too long.
theorem follow_leads (entry found : Entry) (rest : List Text) (named : WellNamed entry)
    (chain : Leads entry rest found) :
    follow entry [] rest =
      if ∀ part ∈ rest, nameSize part ≤ maxNameSize then .ok found else .error .nameTooLong := by
  induction chain with
  | here entry => exact (if_pos (by simp)).symm
  | step name entries next found rest listed onward ih =>
      obtain ⟨present, isName, inner⟩ := mem_entry name entries next named listed
      have later := leads_named next found rest inner onward
      rw [follow_name name rest entries [] isName.2, present]
      simp only [List.forall_mem_cons, follow_above rest next [.directory entries] [] fun part member => (later part member).2]
      by_cases long : maxNameSize < nameSize name
      · rw [if_pos long, if_neg fun both => Nat.not_lt.mpr both.1 long]
      · rw [if_neg long, ih inner]
        simp only [Nat.le_of_not_lt long, true_and]

theorem follow_short (parts : List Text) (here found : Entry) (above : List Entry)
    (names : ∀ part ∈ parts, part ≠ Path.dotDot) (reached : follow here above parts = .ok found) :
    ∀ part ∈ parts, nameSize part ≤ maxNameSize := by
  induction parts generalizing here above with
  | nil => simp
  | cons part parts ih =>
      obtain ⟨name, later⟩ := List.forall_mem_cons.mp names
      cases here with
      | file content => cases reached
      | directory entries =>
          rw [follow_name part parts entries above name] at reached
          split at reached
          · cases reached
          · rename_i short
            split at reached
            · cases reached
            · exact List.forall_mem_cons.mpr ⟨Nat.le_of_not_lt short, ih _ _ later reached⟩

-- The paths below a place are those that a chain of at least one entry leads to.
mutual
theorem mem_within_iff (here p : Path) (entry : Entry) :
    p ∈ within here entry ↔
      ∃ rest found, rest ≠ [] ∧ p = ⟨here.root, here.parts ++ rest⟩ ∧ Leads entry rest found := by
  cases entry with
  | file content =>
      rw [within]
      constructor
      · intro member
        simp at member
      · rintro ⟨rest, found, more, _, chain⟩
        exact absurd (leads_from_file content rest found chain).1 more
  | directory entries =>
      rw [within, List.mem_append, List.mem_map, mem_within_each_iff here p entries]
      constructor
      · rintro (⟨⟨name, next⟩, listed, rfl⟩ | ⟨name, next, rest, found, listed, _, form, chain⟩)
        · exact ⟨[name], next, List.cons_ne_nil _ _, rfl, .step name entries next next [] listed (.here next)⟩
        · exact ⟨name :: rest, found, List.cons_ne_nil _ _, form, .step name entries next found rest listed chain⟩
      · rintro ⟨rest, found, more, form, chain⟩
        cases chain with
        | here => contradiction
        | step name _ next _ rest listed onward =>
            cases rest with
            | nil => exact Or.inl ⟨(name, next), listed, form.symm⟩
            | cons part rest => exact Or.inr ⟨name, next, part :: rest, found, listed, List.cons_ne_nil _ _, form, onward⟩
theorem mem_within_each_iff (here p : Path) (entries : List (Text × Entry)) :
    p ∈ withinEach here entries ↔
      ∃ name next rest found, (name, next) ∈ entries ∧ rest ≠ [] ∧ p = ⟨here.root, here.parts ++ name :: rest⟩ ∧
        Leads next rest found := by
  cases entries with
  | nil => simp [withinEach]
  | cons first others =>
      obtain ⟨own, entry⟩ := first
      rw [withinEach, List.mem_append, mem_within_iff (here.child own) p entry, mem_within_each_iff here p others]
      simp only [Path.child, List.append_assoc, List.singleton_append]
      constructor
      · rintro (⟨rest, found, more, form, chain⟩ | ⟨name, next, rest, found, listed, more, form, chain⟩)
        · exact ⟨own, entry, rest, found, List.mem_cons_self, more, form, chain⟩
        · exact ⟨name, next, rest, found, List.mem_cons_of_mem _ listed, more, form, chain⟩
      · rintro ⟨name, next, rest, found, listed, more, form, chain⟩
        rcases List.mem_cons.mp listed with same | later
        · cases same
          exact Or.inl ⟨rest, found, more, form, chain⟩
        · exact Or.inr ⟨name, next, rest, found, later, more, form, chain⟩
end

theorem names_nodup (entries : FileTree) (named : WellNamedIn entries) : (entries.map Prod.fst).Nodup := by
  induction entries with
  | nil => exact List.nodup_nil
  | cons first others ih =>
      refine List.nodup_cons.mpr ⟨?_, ih named.2.2.2⟩
      intro member
      obtain ⟨other, listed, same⟩ := List.mem_map.mp member
      exact named.2.1 other listed same

mutual
theorem within_nodup (here : Path) (entry : Entry) (named : WellNamed entry) : (within here entry).Nodup := by
  cases entry with
  | file content => exact List.nodup_nil
  | directory entries =>
      rw [within]
      refine List.nodup_append.mpr ⟨?_, within_each_nodup here entries named, ?_⟩
      · have names := List.pairwise_map.mp (names_nodup entries named)
        exact List.pairwise_map.mpr (names.imp fun apart same => apart (by simpa [Path.child] using same))
      · -- An entry of the directory itself is one component deep, all others are deeper.
        intro p own other later same
        obtain ⟨first, _, form⟩ := List.mem_map.mp own
        obtain ⟨name, _, rest, _, _, more, otherForm, _⟩ := (mem_within_each_iff here other entries).mp later
        rw [← same, ← form] at otherForm
        have deeper : [first.1] = name :: rest := by simpa [Path.child] using congrArg Path.parts otherForm
        exact more (List.cons.inj deeper).2.symm
theorem within_each_nodup (here : Path) (entries : List (Text × Entry)) (named : WellNamedIn entries) :
    (withinEach here entries).Nodup := by
  cases entries with
  | nil => exact List.nodup_nil
  | cons first others =>
      obtain ⟨name, entry⟩ := first
      rw [withinEach]
      refine List.nodup_append.mpr ⟨within_nodup _ entry named.2.2.1, within_each_nodup here others named.2.2.2, ?_⟩
      intro p own other later same
      obtain ⟨rest, _, _, form, _⟩ := (mem_within_iff (here.child name) p entry).mp own
      obtain ⟨different, next, more, _, listed, _, otherForm, _⟩ := (mem_within_each_iff here other others).mp later
      rw [← same, form] at otherForm
      have equal : name = different ∧ rest = more := by simpa [Path.child] using congrArg Path.parts otherForm
      exact named.2.1 (different, next) listed equal.1.symm
end

end FileTree

namespace Path

def Sized (p : Path) : Prop :=
  FileTree.nameSize p.text ≤ maxSize ∧ ∀ part ∈ p.parts, FileTree.nameSize part ≤ FileTree.maxNameSize

instance (p : Path) : Decidable p.Sized :=
  inferInstanceAs (Decidable (FileTree.nameSize p.text ≤ maxSize ∧
    ∀ part ∈ p.parts, FileTree.nameSize part ≤ FileTree.maxNameSize))

end Path

namespace FileTree

-- The first path below a place that no disk takes.
def blocked? (place : Path) (entry : Entry) : Option Path := (within place entry).find? fun p => !decide p.Sized

theorem within_sized (place : Path) (entry : Entry) (free : blocked? place entry = none) :
    ∀ p ∈ within place entry, p.Sized := by
  intro p member
  simpa using List.find?_eq_none.mp free p member

theorem blocked_split (place : Path) (entry : Entry) (p : Path) (blocked : blocked? place entry = some p) :
    ¬ p.Sized ∧ ∃ before after, within place entry = before ++ p :: after ∧ ∀ q ∈ before, q.Sized := by
  obtain ⟨tooLong, before, after, split, fits⟩ := List.find?_eq_some_iff_append.mp blocked
  exact ⟨by simpa using tooLong, before, after, split, fun q member => by simpa using fits q member⟩

end FileTree

namespace Host

variable (host : Host)

theorem is_file_within (place : Path) (entry found : Entry) (rest : List Text) (held : host.Held place entry)
    (named : FileTree.WellNamed entry) (spelled : FileTree.Spelled entry) (chain : FileTree.Leads entry rest found) :
    host.isFile ⟨place.root, place.parts ++ rest⟩ =
      if Path.Sized ⟨place.root, place.parts ++ rest⟩ then .ok found.isFile
      else .error (.disk .nameTooLong (Path.text ⟨place.root, place.parts ++ rest⟩)) := by
  have names := FileTree.leads_named entry found rest named chain
  have plain : Path.Plain ⟨place.root, place.parts ++ rest⟩ :=
    ⟨held.plain.1, List.forall_mem_append.mpr ⟨held.plain.2, fun part member => (names part member).2⟩⟩
  have writable : ∀ part ∈ place.parts ++ rest, Path.Writable part :=
    List.forall_mem_append.mpr ⟨held.writable, FileTree.leads_spelled entry found rest spelled chain⟩
  have asked := entry_written host _ plain writable
  rw [FileTree.find_append host.tree place.parts rest plain.2, held.found] at asked
  change _ = if _ then _ else Except.mapError _ (FileTree.follow entry [] rest) at asked
  rw [FileTree.follow_leads entry found rest named chain] at asked
  have above := FileTree.follow_short place.parts _ entry [] held.plain.2 held.found
  by_cases long : Path.maxSize < FileTree.nameSize (Path.text ⟨place.root, place.parts ++ rest⟩)
  · rw [if_pos long] at asked
    rw [if_neg fun fits => Nat.not_lt.mpr fits.1 long]
    simp only [isFile, look, entry?, asked]
    rfl
  · by_cases short : ∀ part ∈ rest, FileTree.nameSize part ≤ FileTree.maxNameSize
    · rw [if_neg long, if_pos short] at asked
      rw [if_pos ⟨Nat.le_of_not_lt long, List.forall_mem_append.mpr ⟨above, short⟩⟩]
      simp only [isFile, look, entry?, asked]
      rfl
    · rw [if_neg long, if_neg short] at asked
      rw [if_neg fun fits => short (List.forall_mem_append.mp fits.2).2]
      simp only [isFile, look, entry?, asked]
      rfl

theorem regular_subset (paths found : List Path) (asked : host.regular paths = .ok found) : found ⊆ paths := by
  induction paths generalizing found with
  | nil =>
      cases asked
      exact List.Subset.refl _
  | cons path rest ih =>
      obtain ⟨isFile, _, later⟩ := Failure.bind_ok _ _ _ asked
      obtain ⟨others, onward, last⟩ := Failure.bind_ok _ _ _ later
      have inside := ih others onward
      cases isFile with
      | true =>
          cases last
          exact List.cons_subset_cons path inside
      | false =>
          cases last
          exact List.subset_cons_of_subset path inside

-- A failure ends the asking; until then each path has its answer.
theorem regular_answered (paths : List Path) (answered : ∀ p ∈ paths, ∃ isFile, host.isFile p = .ok isFile) :
    ∃ found, host.regular paths = .ok found ∧ found.Sublist paths ∧
      ∀ p, p ∈ found ↔ p ∈ paths ∧ host.isFile p = .ok true := by
  induction paths with
  | nil => exact ⟨[], rfl, List.Sublist.refl _, by simp⟩
  | cons path rest ih =>
      obtain ⟨⟨isFile, own⟩, others⟩ := List.forall_mem_cons.mp answered
      obtain ⟨found, asked, part, members⟩ := ih others
      rw [regular, own, Failure.ok_bind, asked, Failure.ok_bind]
      cases isFile with
      | true =>
          refine ⟨path :: found, rfl, part.cons_cons path, ?_⟩
          intro p
          rw [List.mem_cons, List.mem_cons, members]
          constructor
          · rintro (rfl | ⟨listed, regular⟩)
            · exact ⟨Or.inl rfl, own⟩
            · exact ⟨Or.inr listed, regular⟩
          · rintro ⟨rfl | listed, regular⟩
            · exact Or.inl rfl
            · exact Or.inr ⟨listed, regular⟩
      | false =>
          refine ⟨found, rfl, part.cons path, ?_⟩
          intro p
          rw [List.mem_cons, members]
          constructor
          · rintro ⟨listed, regular⟩
            exact ⟨Or.inr listed, regular⟩
          · rintro ⟨rfl | listed, regular⟩
            · rw [own] at regular
              cases regular
            · exact ⟨listed, regular⟩

theorem regular_stopped (before after : List Path) (p : Path) (failure : Failure)
    (answered : ∀ q ∈ before, ∃ isFile, host.isFile q = .ok isFile) (failed : host.isFile p = .error failure) :
    host.regular (before ++ p :: after) = .error failure := by
  induction before with
  | nil => rw [List.nil_append, regular, failed, Failure.error_bind]
  | cons path rest ih =>
      obtain ⟨⟨isFile, own⟩, others⟩ := List.forall_mem_cons.mp answered
      rw [List.cons_append, regular, own, Failure.ok_bind, ih others, Failure.error_bind]

section Within

variable (place : Path) (entry : Entry) (held : host.Held place entry) (named : FileTree.WellNamed entry)
  (spelled : FileTree.Spelled entry)

include held named spelled

theorem is_file_sized (p : Path) (member : p ∈ FileTree.within place entry) (fits : p.Sized) :
    ∃ rest found, p = ⟨place.root, place.parts ++ rest⟩ ∧ FileTree.Leads entry rest found ∧
      host.isFile p = .ok found.isFile := by
  obtain ⟨rest, found, _, rfl, chain⟩ := (FileTree.mem_within_iff place p entry).mp member
  exact ⟨rest, found, rfl, chain, by
    rw [is_file_within host place entry found rest held named spelled chain, if_pos fits]⟩

theorem regular_within (directory : entry.isDirectory = true) (free : FileTree.blocked? place entry = none) :
    ∃ found, host.regular (FileTree.within place entry) = .ok found ∧ found.Perm (FileTree.files place entry) := by
  have fits := FileTree.within_sized place entry free
  obtain ⟨found, asked, part, members⟩ := host.regular_answered (FileTree.within place entry) fun p member => by
    obtain ⟨_, _, _, _, answered⟩ := is_file_sized host place entry held named spelled p member (fits p member)
    exact ⟨_, answered⟩
  refine ⟨found, asked, ?_⟩
  refine (List.perm_ext_iff_of_nodup (part.nodup (FileTree.within_nodup place entry named))
    (FileTree.files_nodup place entry named)).mpr ?_
  intro p
  rw [members, FileTree.mem_files_iff]
  constructor
  · rintro ⟨member, regular⟩
    obtain ⟨rest, last, form, chain, answered⟩ :=
      is_file_sized host place entry held named spelled p member (fits p member)
    cases last with
    | file content => exact ⟨rest, content, form, chain⟩
    | directory entries =>
        rw [answered] at regular
        cases regular
  · rintro ⟨rest, content, rfl, chain⟩
    have more : rest ≠ [] := by
      rintro rfl
      cases chain
      cases directory
    have member := (FileTree.mem_within_iff place _ entry).mpr ⟨rest, _, more, rfl, chain⟩
    refine ⟨member, ?_⟩
    rw [is_file_within host place entry _ rest held named spelled chain, if_pos (fits _ member)]
    rfl

theorem regular_blocked (p : Path) (blocked : FileTree.blocked? place entry = some p) :
    host.regular (FileTree.within place entry) = .error (.disk .nameTooLong p.text) := by
  obtain ⟨tooLong, before, after, split, fits⟩ := FileTree.blocked_split place entry p blocked
  have inside : ∀ q ∈ before ++ p :: after, q ∈ FileTree.within place entry := fun q member => split ▸ member
  rw [split]
  refine regular_stopped host before after p _ ?_ ?_
  · intro q member
    obtain ⟨_, _, _, _, answered⟩ := is_file_sized host place entry held named spelled q
      (inside q (List.mem_append_left _ member)) (fits q member)
    exact ⟨_, answered⟩
  · obtain ⟨rest, found, _, rfl, chain⟩ := (FileTree.mem_within_iff place p entry).mp (inside p (by simp))
    rw [is_file_within host place entry found rest held named spelled chain, if_neg tooLong]

end Within

end Host

end Linkage
