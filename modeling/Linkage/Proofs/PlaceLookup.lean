import Linkage.Host
import Linkage.Proofs.Settling

set_option autoImplicit false

namespace Linkage

namespace FileTree

theorem name_size_append (left right : Text) : nameSize (left ++ right) = nameSize left + nameSize right := by
  induction left with
  | nil => simp [nameSize]
  | cons point left ih =>
      cases point with
      | scalar c =>
          simp only [List.cons_append, nameSize, ih]
          omega
      | surrogate offset =>
          simp only [List.cons_append, nameSize, ih]
          omega

theorem find_append (tree : FileTree) (front back : List Text) (names : ∀ part ∈ front ++ back, part ≠ Path.dotDot) :
    tree.find (front ++ back) = (tree.find front).bind fun found => follow found [] back :=
  follow_append front back (.directory tree) [] names

end FileTree

namespace Path

def Plain (p : Path) : Prop := p.root = .slash ∧ ∀ part ∈ p.parts, part ≠ dotDot

theorem plain_parent (p : Path) (plain : p.Plain) : p.parent.Plain :=
  ⟨plain.1, fun part member => plain.2 part (List.dropLast_subset p.parts member)⟩

theorem plain_child (p : Path) (name : Text) (plain : p.Plain) (named : name ≠ dotDot) : (p.child name).Plain := by
  refine ⟨plain.1, ?_⟩
  intro part member
  rcases List.mem_append.mp member with own | last
  · exact plain.2 part own
  · have same : part = name := by simpa using last
    rw [same]
    exact named

theorem writable_child (p : Path) (name : Text) (writable : ∀ part ∈ p.parts, Writable part)
    (named : Writable name) : ∀ part ∈ (p.child name).parts, Writable part := by
  intro part member
  rcases List.mem_append.mp member with own | last
  · exact writable part own
  · have same : part = name := by simpa using last
    rw [same]
    exact named

theorem plain_ancestor (p above : Path) (plain : p.Plain) (member : above ∈ p.ancestors) : above.Plain := by
  obtain ⟨root, front⟩ := ancestor_above p above member
  exact ⟨root.trans plain.1, fun part own => plain.2 part (front.subset own)⟩

theorem child_size (p : Path) (rooted : p.root = .slash) (name : Text) :
    FileTree.nameSize (p.child name).text =
      FileTree.nameSize p.text + (if p.parts = [] then 0 else 1) + FileTree.nameSize name := by
  obtain ⟨root, parts⟩ := p
  cases rooted
  rw [child, text_of_rooted ⟨.slash, parts⟩ (by simp), text_of_rooted ⟨.slash, parts ++ [name]⟩ (by simp)]
  cases parts with
  | nil => simp [Text.join, FileTree.name_size_append]
  | cons part parts =>
      have between : FileTree.nameSize [slash] = 1 := by decide
      rw [Text.join_append [slash] _ [name] (List.cons_ne_nil part parts) (List.cons_ne_nil _ _),
        if_neg (List.cons_ne_nil part parts)]
      simp only [FileTree.name_size_append, Text.join, between]
      omega

theorem parent_size (p : Path) (plain : p.Plain) : FileTree.nameSize p.parent.text ≤ FileTree.nameSize p.text := by
  by_cases bare : p.parts = []
  · have same : p.parent = p := by rw [parent, bare, List.dropLast_nil, ← bare]
    exact Nat.le_of_eq (by rw [same])
  · obtain ⟨last, _, whole⟩ := parent_child p bare
    have size := child_size p.parent plain.1 last
    rw [whole] at size
    omega

theorem child_size_below (front back : List Text) (name : Text) :
    FileTree.nameSize (child ⟨.slash, front⟩ name).text ≤ FileTree.nameSize (child ⟨.slash, front ++ back⟩ name).text := by
  induction back generalizing front with
  | nil => exact Nat.le_of_eq (by rw [List.append_nil])
  | cons part back ih =>
      have deeper := ih (front ++ [part])
      rw [List.append_assoc, List.singleton_append] at deeper
      have step : FileTree.nameSize (text ⟨.slash, front ++ [part]⟩) = _ := child_size ⟨.slash, front⟩ rfl part
      have here := child_size ⟨.slash, front⟩ rfl name
      have below := child_size ⟨.slash, front ++ [part]⟩ rfl name
      rw [if_neg (List.append_ne_nil_of_right_ne_nil front (List.cons_ne_nil part []))] at below
      by_cases bare : front = []
      · rw [if_pos bare] at step here
        omega
      · rw [if_neg bare] at step here
        omega

theorem collapse_plain (p : Path) (plain : p.Plain) : p.collapse = p := collapse_names p plain.2

end Path

namespace Host

variable (host : Host)

theorem absolute_plain (p : Path) (plain : p.Plain) : host.absolute p = p := by
  simp only [absolute, Path.below, Path.absolute_of_slash p plain.1, if_true]

theorem fold_settle_ok (root : Path.Root) (parts stack result : List Text)
    (done : parts.foldlM (settleStep root) stack = .ok result) :
    result = parts.foldl (Path.push (root ≠ .none)) stack := by
  induction parts generalizing stack with
  | nil => exact (Except.ok.inj done).symm
  | cons part parts ih =>
      rw [List.foldlM_cons] at done
      obtain ⟨next, stepped, later⟩ := Failure.bind_ok _ _ _ done
      have pushed : next = Path.push (root ≠ .none) stack part := by
        rw [settleStep] at stepped
        split at stepped
        · obtain ⟨_, _, last⟩ := Failure.bind_ok _ _ _ stepped
          exact (Except.ok.inj last).symm
        · exact (Except.ok.inj stepped).symm
      rw [List.foldl_cons, ← pushed]
      exact ih next later

theorem settle_plain (sound : host.Sound) (path place : Path) (settled : host.settle path = .ok place) :
    place.Plain := settle_absolute host sound path place settled

theorem settle_of_plain (p place : Path) (plain : p.Plain) (settled : host.settle p = .ok place) : place = p := by
  have absolute := Path.absolute_of_slash p plain.1
  rw [settle, absolute] at settled
  obtain ⟨stack, folded, last⟩ := Failure.bind_ok _ _ _ settled
  have pushed := fold_settle_ok _ p.parts [] stack folded
  rw [Path.foldl_push_names _ p.parts [] plain.2, List.append_nil] at pushed
  have same : (⟨.slash, p.parts⟩ : Path) = p := by rw [← plain.1]
  have ended : (host.absolute ⟨.slash, stack.reverse⟩).collapse = place := Except.ok.inj last
  rw [← ended, pushed, List.reverse_reverse, same, absolute_plain host p plain, Path.collapse_plain p plain]

-- What is said about a path, given what a look-up in the tree comes to.
def admitted (path : Path) (found : Except DiskFault Entry) : Except Failure Entry := do
  Path.check path.text
  if Path.maxSize < FileTree.nameSize path.text then .error (.disk .nameTooLong path.text)
  else found.mapError (Failure.disk · path.text)

theorem entry_eq (path : Path) :
    host.entry path = admitted path (host.tree.find (host.absolute path).parts) := by
  rw [entry, admitted]
  cases host.tree.find (host.absolute path).parts <;> rfl

theorem admitted_cases (path : Path) :
    (∃ failure, ∀ found, admitted path found = .error failure) ∨
      ∀ found, admitted path found = found.mapError (Failure.disk · path.text) := by
  cases checked : Path.check path.text with
  | error failure => exact Or.inl ⟨failure, fun found => by rw [admitted, checked, Failure.error_bind]⟩
  | ok _ =>
      by_cases long : Path.maxSize < FileTree.nameSize path.text
      · exact Or.inl ⟨_, fun found => by rw [admitted, checked, Failure.ok_bind, if_pos long]⟩
      · refine Or.inr ?_
        intro found
        rw [admitted, checked, Failure.ok_bind, if_neg long]

theorem settle_written (p : Path) (plain : p.Plain) (writable : ∀ part ∈ p.parts, Path.Writable part) :
    host.settle p = .ok p := by
  have absolute := Path.absolute_of_slash p plain.1
  have same : (⟨.slash, p.parts⟩ : Path) = p := by rw [← plain.1]
  have folded := settle_names .slash p.parts [] plain.2 writable (by simp)
  rw [settle, absolute]
  simp only [if_true, folded, Failure.ok_bind, List.append_nil, List.reverse_reverse, same,
    absolute_plain host p plain, Path.collapse_plain p plain]
  rfl

theorem entry_written (p : Path) (plain : p.Plain) (writable : ∀ part ∈ p.parts, Path.Writable part) :
    host.entry p =
      if Path.maxSize < FileTree.nameSize p.text then .error (.disk .nameTooLong p.text)
      else (host.tree.find p.parts).mapError (Failure.disk · p.text) := by
  obtain ⟨root, parts⟩ := p
  have checked : Path.check (Path.text ⟨root, parts⟩) = .ok () :=
    (Path.check_ok_iff _).mpr ((Path.text_writable_iff root parts).mpr writable)
  rw [entry_eq, absolute_plain host _ plain, admitted, checked, Failure.ok_bind]

theorem look_absent (p : Path) (plain : p.Plain) (writable : ∀ part ∈ p.parts, Path.Writable part)
    (fits : FileTree.nameSize p.text ≤ Path.maxSize) (fault : DiskFault) (absent : host.tree.find p.parts = .error fault)
    (ordinary : fault = .missing ∨ fault = .notDirectory) : host.look p = .ok none := by
  have failed : host.entry p = .error (.disk fault p.text) := by
    rw [entry_written host p plain writable, if_neg (Nat.not_lt.mpr fits), absent]
    rfl
  rcases ordinary with missing | blocked
  · simp only [look, entry?, failed, missing]
  · simp only [look, entry?, failed, blocked]

theorem look_long (p : Path) (plain : p.Plain) (writable : ∀ part ∈ p.parts, Path.Writable part)
    (long : Path.maxSize < FileTree.nameSize p.text) : host.look p = .error (.disk .nameTooLong p.text) := by
  have failed : host.entry p = .error (.disk .nameTooLong p.text) := by
    rw [entry_written host p plain writable, if_pos long]
  simp only [look, entry?, failed]

-- A settled place on the disk, with what is there.
structure Held (place : Path) (entry : Entry) : Prop where
  plain : place.Plain
  writable : ∀ part ∈ place.parts, Path.Writable part
  fits : FileTree.nameSize place.text ≤ Path.maxSize
  found : host.tree.find place.parts = .ok entry

theorem held_of_look (sound : host.Sound) (path place : Path) (entry : Entry) (settled : host.settle path = .ok place)
    (present : host.look place = .ok (some entry)) : host.Held place entry := by
  have plain := settle_plain host sound path place settled
  have reached := look_some host place entry present
  obtain ⟨writable, found⟩ := entry_ok host place entry reached
  rw [absolute_plain host place plain] at found
  have parts := (Path.text_writable_iff place.root place.parts).mp writable
  refine ⟨plain, parts, ?_, found⟩
  apply Nat.le_of_not_lt
  intro long
  rw [entry_written host place plain parts, if_pos long] at reached
  cases reached

theorem look_held (place : Path) (entry : Entry) (held : host.Held place entry) : host.look place = .ok (some entry) := by
  have reached : host.entry place = .ok entry := by
    rw [entry_written host place held.plain held.writable, if_neg (Nat.not_lt.mpr held.fits), held.found]
    rfl
  simp only [look, entry?, reached]

-- A path that settles at a place, with what is there.
structure Finds (path place : Path) (entry : Entry) : Prop where
  settled : host.settle path = .ok place
  present : host.look place = .ok (some entry)

theorem finds_held (sound : host.Sound) (path place : Path) (entry : Entry) (finds : host.Finds path place entry) :
    host.Held place entry := held_of_look host sound path place entry finds.settled finds.present

theorem finds_place (sound : host.Sound) (path place : Path) (entry : Entry) (finds : host.Finds path place entry) :
    host.Finds place place entry :=
  ⟨settle_settled host sound path place entry finds.settled finds.present, finds.present⟩

theorem settle_held (place : Path) (entry : Entry) (held : host.Held place entry) : host.settle place = .ok place :=
  settle_written host place held.plain held.writable

theorem parent_held (place : Path) (content : Bytes) (held : host.Held place (.file content)) :
    ∃ entries, host.Held place.parent (.directory entries) := by
  obtain ⟨plain, writable, fits, found⟩ := held
  rcases List.eq_nil_or_concat place.parts with bare | ⟨front, last, split⟩
  · rw [bare] at found
    cases found
  · rw [List.concat_eq_append] at split
    have above : place.parent.parts = front := by rw [Path.parent, split, List.dropLast_concat]
    rw [split, FileTree.find_append host.tree front [last] (split ▸ plain.2)] at found
    cases reached : host.tree.find front with
    | error fault =>
        rw [reached] at found
        cases found
    | ok entry =>
        rw [reached] at found
        cases entry with
        | file other => cases found
        | directory entries =>
            refine ⟨entries, Path.plain_parent place plain, ?_, ?_, by rw [above, reached]⟩
            · intro part member
              exact writable part (List.dropLast_subset place.parts member)
            · exact Nat.le_trans (Path.parent_size place plain) fits

end Host

end Linkage
