import Linkage.Host
import Linkage.Proofs.TreeFiles

set_option autoImplicit false

namespace Linkage

namespace Text

theorem mem_join (sep : Text) (pieces : List Text) (p : CodePoint) (member : p ∈ join sep pieces) :
    p ∈ sep ∨ ∃ piece ∈ pieces, p ∈ piece := by
  induction pieces with
  | nil => simp [join] at member
  | cons piece pieces ih =>
      cases pieces with
      | nil => exact Or.inr ⟨piece, List.mem_cons_self, member⟩
      | cons next pieces =>
          rw [join_cons sep piece _ (List.cons_ne_nil next pieces), List.append_assoc] at member
          rcases List.mem_append.mp member with own | member
          · exact Or.inr ⟨piece, List.mem_cons_self, own⟩
          · rcases List.mem_append.mp member with between | later
            · exact Or.inl between
            · rcases ih later with between | ⟨other, listed, inside⟩
              · exact Or.inl between
              · exact Or.inr ⟨other, List.mem_cons_of_mem piece listed, inside⟩

theorem join_mem (sep : Text) (pieces : List Text) (piece : Text) (p : CodePoint) (listed : piece ∈ pieces)
    (inside : p ∈ piece) : p ∈ join sep pieces := by
  induction pieces with
  | nil => simp at listed
  | cons first pieces ih =>
      cases pieces with
      | nil =>
          have same : piece = first := by simpa using listed
          rw [same] at inside
          exact inside
      | cons next pieces =>
          rw [join_cons sep first _ (List.cons_ne_nil next pieces)]
          rcases List.mem_cons.mp listed with same | later
          · rw [same] at inside
            exact List.mem_append_left _ (List.mem_append_left _ inside)
          · exact List.mem_append_right _ (ih later)

end Text

namespace Path

def Writable (t : Text) : Prop := ∀ p ∈ t, isEncodable p = true ∧ p.val ≠ 0

instance (t : Text) : Decidable (Writable t) :=
  inferInstanceAs (Decidable (∀ p ∈ t, isEncodable p = true ∧ p.val ≠ 0))

theorem unencodable_none_iff (place : Nat) (t : Text) :
    unencodable? place t = none ↔ ∀ p ∈ t, isEncodable p = true := by
  induction t generalizing place with
  | nil => simp [unencodable?]
  | cons p rest ih =>
      by_cases encodable : isEncodable p = true
      · simp only [unencodable?, encodable, if_true, ih, List.forall_mem_cons, true_and]
      · simp [unencodable?, encodable]

theorem check_ok_iff (t : Text) : check t = .ok () ↔ Writable t := by
  rw [check]
  split
  · rename_i point place more found
    have broken : unencodable? 0 t ≠ none := by simp [found]
    constructor
    · intro done
      cases done
    · intro writable
      exact absurd ((unencodable_none_iff 0 t).mpr fun p member => (writable p member).1) broken
  · rename_i clear
    have encodable := (unencodable_none_iff 0 t).mp clear
    split
    · rename_i zero
      obtain ⟨p, member, isZero⟩ := List.any_eq_true.mp zero
      constructor
      · intro done
        cases done
      · intro writable
        exact absurd (eq_of_beq isZero) (writable p member).2
    · rename_i nonzero
      refine ⟨fun _ p member => ⟨encodable p member, ?_⟩, fun _ => rfl⟩
      intro isZero
      exact nonzero (List.any_eq_true.mpr ⟨p, member, by simp [isZero]⟩)

theorem root_writable (root : Root) : Writable root.text := by
  cases root <;> decide

theorem text_writable_iff (root : Root) (parts : List Text) :
    Writable (text ⟨root, parts⟩) ↔ ∀ part ∈ parts, Writable part := by
  cases parts with
  | nil =>
      have bare : Writable (text ⟨root, []⟩) := by cases root <;> decide
      exact ⟨fun _ => by simp, fun _ => bare⟩
  | cons part parts =>
      rw [text_of_parts ⟨root, part :: parts⟩ (List.cons_ne_nil part parts)]
      constructor
      · intro writable other listed p inside
        exact writable p (List.mem_append_right _ (Text.join_mem [slash] _ other p listed inside))
      · intro writable p member
        rcases List.mem_append.mp member with lead | member
        · exact root_writable root p lead
        · rcases Text.mem_join [slash] _ p member with between | ⟨other, listed, inside⟩
          · exact root_writable .slash p between
          · exact writable other listed p inside

theorem absolute_of_slash (p : Path) (root : p.root = .slash) : p.isAbsolute = true := by
  rw [isAbsolute, root]
  rfl

end Path

namespace Host

-- A working directory below one slash, and a tree that names its entries as a disk does.
structure Sound (host : Host) : Prop where
  directory : host.directory.root = .slash
  tree : FileTree.WellNamedIn host.tree

theorem settle_absolute (host : Host) (sound : host.Sound) (path place : Path)
    (settled : host.settle path = .ok place) :
    place.root = .slash ∧ ∀ part ∈ place.parts, part ≠ Path.dotDot := by
  obtain ⟨stack, _, done⟩ := Failure.bind_ok _ _ _ settled
  cases done
  have root : (host.absolute ⟨if path.isAbsolute then .slash else .none, stack.reverse⟩).root = .slash := by
    cases path.isAbsolute with
    | true => rfl
    | false => exact sound.directory
  exact ⟨root, Path.collapse_rooted _ (Path.absolute_of_slash _ root)⟩

theorem settle_step_name (root : Path.Root) (stack : List Text) (part : Text) (name : part ≠ Path.dotDot)
    (writable : ∀ other ∈ part :: stack, Path.Writable other) : settleStep root stack part = .ok (part :: stack) := by
  have checked : Path.check (Path.text ⟨root, (part :: stack).reverse⟩) = .ok () := by
    rw [Path.check_ok_iff, Path.text_writable_iff]
    intro other member
    exact writable other (List.mem_reverse.mp member)
  rw [settleStep, if_pos name, checked, Path.push_name _ stack part name]
  rfl

theorem settle_names (root : Path.Root) (parts stack : List Text) (names : ∀ part ∈ parts, part ≠ Path.dotDot)
    (writable : ∀ part ∈ parts, Path.Writable part) (below : ∀ part ∈ stack, Path.Writable part) :
    parts.foldlM (settleStep root) stack = .ok (parts.reverse ++ stack) := by
  induction parts generalizing stack with
  | nil => rfl
  | cons part parts ih =>
      obtain ⟨name, later⟩ := List.forall_mem_cons.mp names
      obtain ⟨first, others⟩ := List.forall_mem_cons.mp writable
      have pushed := List.forall_mem_cons.mpr ⟨first, below⟩
      rw [List.foldlM_cons, settle_step_name root stack part name pushed]
      change parts.foldlM (settleStep root) (part :: stack) = _
      rw [ih (part :: stack) later others pushed]
      simp

theorem look_some (host : Host) (path : Path) (entry : Entry) (present : host.look path = .ok (some entry)) :
    host.entry path = .ok entry := by
  have answered : host.entry? path = .ok (some entry) := by
    rw [look] at present
    split at present
    · cases present
    · cases present
    · exact present
  rw [ entry?] at answered
  split at answered
  · rename_i other found
    cases answered
    exact found
  · cases answered
  · cases answered
  · cases answered

theorem entry_ok (host : Host) (path : Path) (entry : Entry) (found : host.entry path = .ok entry) :
    Path.Writable path.text ∧ host.tree.find (host.absolute path).parts = .ok entry := by
  obtain ⟨_, checked, rest⟩ := Failure.bind_ok _ _ _ found
  refine ⟨(Path.check_ok_iff _).mp checked, ?_⟩
  split at rest
  · cases rest
  · split at rest
    · rename_i other reached
      cases rest
      exact reached
    · cases rest

-- Settling a settled place again looks at nothing but its own components, and those are on the disk.
theorem settle_settled (host : Host) (sound : host.Sound) (path place : Path) (entry : Entry)
    (settled : host.settle path = .ok place) (present : host.look place = .ok (some entry)) :
    host.settle place = .ok place := by
  obtain ⟨root, names⟩ := settle_absolute host sound path place settled
  have writable := (entry_ok host place entry (look_some host place entry present)).1
  obtain ⟨root', parts⟩ := place
  cases root
  rw [Path.text_writable_iff] at writable
  have stack := settle_names .slash parts [] names writable (by simp)
  change (do
    let stack ← parts.foldlM (settleStep .slash) []
    return (host.absolute ⟨.slash, stack.reverse⟩).collapse : Except Failure Path) = _
  rw [stack]
  change Except.ok (Path.collapse ⟨.slash, (parts.reverse ++ []).reverse⟩) = _
  rw [List.append_nil, List.reverse_reverse, Path.collapse_names ⟨.slash, parts⟩ names]

theorem place_named (host : Host) (sound : host.Sound) (path place : Path) (entry : Entry)
    (settled : host.settle path = .ok place) (present : host.look place = .ok (some entry)) :
    FileTree.WellNamed entry ∧ (∀ part ∈ place.parts, Path.IsName part) ∧
      (entry.isDirectory = false → place.parts ≠ []) := by
  obtain ⟨root, names⟩ := settle_absolute host sound path place settled
  have found := (entry_ok host place entry (look_some host place entry present)).2
  have own : host.absolute place = place := by
    simp only [absolute, Path.below, Path.absolute_of_slash place root, if_true]
  rw [own] at found
  obtain ⟨named, ways⟩ := FileTree.follow_named place.parts (.directory host.tree) entry [] sound.tree (by simp) found
  refine ⟨named, ?_, ?_⟩
  · intro part member
    exact (ways part member).resolve_left (names part member)
  · intro isFile bare
    rw [bare] at found
    cases found
    contradiction

end Host

end Linkage
