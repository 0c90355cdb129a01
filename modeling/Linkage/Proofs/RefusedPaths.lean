import Linkage.Proofs.ProjectFiles

set_option autoImplicit false

namespace Linkage

namespace Path

theorem check_fails (t : Text) (unwritable : ¬ Writable t) :
    check t = .error .nulInPath ∨ ∃ point place more, check t = .error (.unencodablePath point place more) := by
  cases checked : check t with
  | ok _ => exact absurd ((check_ok_iff t).mp checked) unwritable
  | error failure =>
      rw [check] at checked
      split at checked
      · cases checked
        exact Or.inr ⟨_, _, _, rfl⟩
      · split at checked
        · cases checked
          exact Or.inl rfl
        · cases checked

end Path

namespace FileTree

theorem entry_writable (name : Text) (entries : FileTree) (found : Entry) (spelled : SpelledIn entries)
    (present : entry? name entries = some found) : Path.Writable name := by
  induction entries with
  | nil => contradiction
  | cons first rest ih =>
      obtain ⟨other, entry⟩ := first
      rw [ entry?] at present
      split at present
      · rename_i same
        exact same ▸ spelled.1
      · exact ih spelled.2.2 present

theorem follow_writable (parts : List Text) (here found : Entry) (above : List Entry) (spelled : Spelled here)
    (names : ∀ part ∈ parts, part ≠ Path.dotDot) (reached : follow here above parts = .ok found) :
    ∀ part ∈ parts, Path.Writable part := by
  induction parts generalizing here above with
  | nil => simp
  | cons part parts ih =>
      obtain ⟨name, later⟩ := List.forall_mem_cons.mp names
      cases here with
      | file content => cases reached
      | directory entries =>
          rw [follow_name part parts entries above name] at reached
          split at reached
          · cases reached
          · split at reached
            · cases reached
            · rename_i next present
              refine List.forall_mem_cons.mpr ⟨entry_writable part entries next spelled present, ?_⟩
              exact ih next _ (entry_spelled part entries next spelled present) later reached

theorem follow_fault (parts : List Text) (here : Entry) (above : List Entry) (fault : DiskFault)
    (names : ∀ part ∈ parts, part ≠ Path.dotDot) (failed : follow here above parts = .error fault) :
    (fault = .missing ∨ fault = .notDirectory) ∨
      fault = .nameTooLong ∧ ∃ part ∈ parts, maxNameSize < nameSize part := by
  induction parts generalizing here above with
  | nil => cases failed
  | cons part parts ih =>
      obtain ⟨name, later⟩ := List.forall_mem_cons.mp names
      cases here with
      | file content =>
          cases failed
          exact Or.inl (Or.inr rfl)
      | directory entries =>
          rw [follow_name part parts entries above name] at failed
          split at failed
          · rename_i long
            cases failed
            exact Or.inr ⟨rfl, part, List.mem_cons_self, long⟩
          · split at failed
            · cases failed
              exact Or.inl (Or.inl rfl)
            · rename_i next _
              rcases ih next _ later failed with ordinary | ⟨same, other, member, long⟩
              · exact Or.inl ordinary
              · exact Or.inr ⟨same, other, List.mem_cons_of_mem part member, long⟩

theorem find_long (tree : FileTree) (front : List Text) (name : Text) (entries : FileTree)
    (names : ∀ part ∈ front ++ [name], part ≠ Path.dotDot) (long : maxNameSize < nameSize name)
    (found : tree.find front = .ok (.directory entries)) : tree.find (front ++ [name]) = .error .nameTooLong := by
  have named := names name (List.mem_append_right front List.mem_cons_self)
  rw [find_append tree front [name] names, found]
  exact (follow_name name [] entries [] named).trans (if_pos long)

end FileTree

namespace Host

variable (host : Host)

-- A disk can take the path but for its size, or the size of a name on the way.
def Refuses (p : Path) : Prop :=
  (∀ part ∈ p.parts, Path.Writable part) ∧
    (Path.maxSize < FileTree.nameSize p.text ∨ host.tree.find p.parts = .error .nameTooLong)

inductive Seen (p : Path) : Except Failure (Option Entry) → Prop where
  | held (entry : Entry) (held : host.Held p entry) : Seen p (.ok (some entry))
  | absent (absent : ∀ entry, host.tree.find p.parts ≠ .ok entry) : Seen p (.ok none)
  | refused (refused : host.Refuses p) : Seen p (.error (.disk .nameTooLong p.text))

theorem look_refused (p : Path) (plain : p.Plain) (refused : host.Refuses p) :
    host.look p = .error (.disk .nameTooLong p.text) := by
  obtain ⟨writable, long | tooLong⟩ := refused
  · exact look_long host p plain writable long
  · have failed : host.entry p = .error (.disk .nameTooLong p.text) := by
      rw [entry_written host p plain writable, tooLong]
      split <;> rfl
    simp only [look, entry?, failed]

theorem look_unwritable (p : Path) (unwritable : ¬ Path.Writable p.text) : host.look p = .ok none := by
  rcases Path.check_fails p.text unwritable with failed | ⟨point, place, more, failed⟩
  · simp only [look, entry?, entry, failed, Failure.error_bind]
  · simp only [look, entry?, entry, failed, Failure.error_bind]

theorem look_seen (spelled : FileTree.SpelledIn host.tree) (p : Path) (plain : p.Plain) : host.Seen p (host.look p) := by
  by_cases writable : ∀ part ∈ p.parts, Path.Writable part
  · by_cases long : Path.maxSize < FileTree.nameSize p.text
    · rw [look_long host p plain writable long]
      exact .refused ⟨writable, Or.inl long⟩
    · have fits := Nat.le_of_not_lt long
      cases found : host.tree.find p.parts with
      | ok entry =>
          have held : host.Held p entry := ⟨plain, writable, fits, found⟩
          rw [look_held host p entry held]
          exact .held entry held
      | error fault =>
          rcases FileTree.follow_fault p.parts _ [] fault plain.2 found with ordinary | ⟨tooLong, _⟩
          · rw [look_absent host p plain writable fits fault found ordinary]
            exact .absent fun entry present => by simp [found] at present
          · rw [tooLong] at found
            rw [look_refused host p plain ⟨writable, Or.inr found⟩]
            exact .refused ⟨writable, Or.inr found⟩
  · rw [look_unwritable host p (mt (Path.text_writable_iff p.root p.parts).mp writable)]
    exact .absent fun entry present =>
      writable (FileTree.follow_writable p.parts (.directory host.tree) entry [] spelled plain.2 present)

theorem refuses_child (p : Path) (name : Text) (plain : p.Plain) (named : name ≠ Path.dotDot)
    (writable : Path.Writable name) (refused : host.Refuses p) : host.Refuses (p.child name) := by
  refine ⟨Path.writable_child p name refused.1 writable, ?_⟩
  rcases refused.2 with long | tooLong
  · left
    have size := Path.child_size p plain.1 name
    omega
  · right
    have names := (Path.plain_child p name plain named).2
    rw [Path.child] at names ⊢
    rw [FileTree.find_append host.tree p.parts [name] names, tooLong]
    rfl

theorem refuses_size (p : Path) (plain : p.Plain) (refused : host.Refuses p) :
    Path.maxSize < FileTree.nameSize p.text ∨ ∃ part ∈ p.parts, FileTree.maxNameSize < FileTree.nameSize part := by
  rcases refused.2 with long | tooLong
  · exact Or.inl long
  · rcases FileTree.follow_fault p.parts _ [] _ plain.2 tooLong with ordinary | ⟨_, long⟩
    · simp at ordinary
    · exact Or.inr long

end Host

end Linkage
