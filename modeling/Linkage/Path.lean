import Linkage.Text

set_option autoImplicit false

namespace Linkage

namespace Path

inductive Root where
  | none
  | slash
  | twoSlashes
deriving DecidableEq

def Root.text : Root → Text
  | .none => []
  | .slash => [.scalar '/']
  | .twoSlashes => [.scalar '/', .scalar '/']

def slash : CodePoint := .scalar '/'

def dot : Text := [.scalar '.']

def dotDot : Text := [.scalar '.', .scalar '.']

end Path

structure Path where
  root : Path.Root
  parts : List Text
deriving DecidableEq

namespace Path

def rootOf (t : Text) : Root :=
  match (t.takeWhile (· = slash)).length with
  | 0 => .none
  | 2 => .twoSlashes
  | _ => .slash

-- The path that a text writes: empty and single-dot components count for nothing.
def ofText (t : Text) : Path :=
  ⟨rootOf t, (Text.splitOn slash t).filter fun part => part ≠ [] ∧ part ≠ dot⟩

def text (p : Path) : Text :=
  match p.root, p.parts with
  | .none, [] => dot
  | root, parts => root.text ++ Text.join [slash] parts

def isAbsolute (p : Path) : Bool := p.root ≠ .none

-- One component onto a stack of components, where `..` takes the component before it away. At the root
-- there is nothing to take away; before a relative path the `..` stays.
def push (rooted : Bool) (stack : List Text) (part : Text) : List Text :=
  if part = dotDot then
    match stack with
    | [] => if rooted then [] else [dotDot]
    | top :: rest => if top = dotDot then dotDot :: stack else rest
  else part :: stack

def collapse (p : Path) : Path :=
  ⟨p.root, (p.parts.foldl (push p.isAbsolute) []).reverse⟩

-- A stack whose `..` components all lie at its bottom, and that has none below a root.
def Settled (rooted : Bool) : List Text → Prop
  | [] => True
  | part :: rest => (part = dotDot → rooted = false ∧ ∀ q ∈ rest, q = dotDot) ∧ Settled rooted rest

theorem settled_push {rooted : Bool} {stack : List Text} (settled : Settled rooted stack)
    (part : Text) : Settled rooted (push rooted stack part) := by
  unfold push
  split
  · cases stack with
    | nil => cases rooted <;> simp [Settled]
    | cons top rest =>
      by_cases up : top = dotDot
      · obtain ⟨low, below⟩ := settled
        have facts := low up
        simp only [up, if_true]
        refine ⟨fun _ => ⟨facts.1, ?_⟩, ?_, below⟩
        · intro q member
          rcases List.mem_cons.1 member with rfl | member
          · rfl
          · exact facts.2 q member
        · intro _
          exact facts
      · simp only [up, if_false]
        exact settled.2
  · rename_i plain
    exact ⟨fun same => absurd same plain, settled⟩

theorem settled_foldl {rooted : Bool} (parts : List Text) {stack : List Text}
    (settled : Settled rooted stack) : Settled rooted (parts.foldl (push rooted) stack) := by
  induction parts generalizing stack with
  | nil => exact settled
  | cons part parts ih => exact ih (settled_push settled part)

theorem push_of_settled {rooted : Bool} {stack : List Text} {part : Text}
    (settled : Settled rooted (part :: stack)) : push rooted stack part = part :: stack := by
  unfold push
  split
  · rename_i up
    obtain ⟨relative, all⟩ := settled.1 up
    cases stack with
    | nil => simp [relative, up]
    | cons top rest =>
      have top_up := all top List.mem_cons_self
      simp [top_up, up]
  · rfl

theorem foldl_push_reverse {rooted : Bool} {stack : List Text} (settled : Settled rooted stack) :
    stack.reverse.foldl (push rooted) [] = stack := by
  induction stack with
  | nil => rfl
  | cons part rest ih =>
    rw [List.reverse_cons, List.foldl_append, ih settled.2]
    exact push_of_settled settled

theorem collapse_collapse (p : Path) : p.collapse.collapse = p.collapse := by
  have settled : Settled p.isAbsolute (p.parts.foldl (push p.isAbsolute) []) :=
    settled_foldl p.parts trivial
  have again := foldl_push_reverse settled
  unfold collapse
  simp only [isAbsolute] at again ⊢
  rw [again]

def normalize (t : Text) : Text := (ofText t).collapse.text

def below (base child : Path) : Path :=
  if child.isAbsolute then child else ⟨base.root, base.parts ++ child.parts⟩

def parent (p : Path) : Path := ⟨p.root, p.parts.dropLast⟩

def Above (above p : Path) : Prop := above.root = p.root ∧ above.parts <+: p.parts

theorem above_refl (p : Path) : p.Above p := ⟨rfl, List.prefix_refl _⟩

theorem above_trans (a b c : Path) (first : a.Above b) (second : b.Above c) : a.Above c :=
  ⟨first.1.trans second.1, first.2.trans second.2⟩

theorem eq_of_parts (a b : Path) (root : a.root = b.root) (parts : a.parts = b.parts) : a = b := by
  cases a
  cases b
  exact congr (congrArg Path.mk root) parts

theorem above_antisymm (a b : Path) (first : a.Above b) (second : b.Above a) : a = b :=
  eq_of_parts a b first.1 (first.2.eq_of_length_le second.2.length_le)

theorem parent_above (p : Path) : p.parent.Above p := ⟨rfl, List.dropLast_prefix p.parts⟩

theorem parent_self_iff (p : Path) : p.parent = p ↔ p.parts = [] := by
  constructor
  · intro same
    have size := congrArg (List.length ∘ Path.parts) same
    simp only [Function.comp_apply, parent, List.length_dropLast] at size
    exact List.length_eq_zero_iff.mp (by omega)
  · intro top
    rw [parent, top, List.dropLast_nil, ← top]

theorem above_cases (a p : Path) (above : a.Above p) : a = p ∨ (p.parent ≠ p ∧ a.Above p.parent) := by
  obtain ⟨root, front⟩ := above
  rcases List.eq_nil_or_concat p.parts with top | ⟨upper, last, split⟩
  · left
    rw [top, List.prefix_nil] at front
    exact eq_of_parts a p root (front.trans top.symm)
  · rw [List.concat_eq_append] at split
    rw [split, List.prefix_concat_iff] at front
    rcases front with whole | inside
    · exact Or.inl (eq_of_parts a p root (whole.trans split.symm))
    · right
      refine ⟨fun same => ?_, root, ?_⟩
      · have top := (parent_self_iff p).mp same
        rw [top] at split
        simp at split
      · rw [parent, split, List.dropLast_concat]
        exact inside

-- What holds of a path as soon as it holds of its parent holds of every path: going up ends.
theorem parent_induction {motive : Path → Prop} (step : ∀ p, (p.parent ≠ p → motive p.parent) → motive p) (p : Path) :
    motive p := by
  generalize size : p.parts.length = count
  induction count generalizing p with
  | zero => exact step p fun moves => absurd ((parent_self_iff p).mpr (List.length_eq_zero_iff.mp size)) moves
  | succ count ih =>
      refine step p fun _ => ih p.parent ?_
      rw [parent, List.length_dropLast, size, Nat.add_sub_cancel]

-- The paths of a root and components kept backwards, from the longest to the root.
def upward (root : Root) : (backwards : List Text) → List Path
  | [] => [⟨root, []⟩]
  | part :: rest => ⟨root, (part :: rest).reverse⟩ :: upward root rest

theorem mem_upward (root : Root) (backwards : List Text) (p : Path) (member : p ∈ upward root backwards) :
    p.root = root ∧ p.parts.reverse <:+ backwards := by
  induction backwards with
  | nil =>
      have same : p = ⟨root, []⟩ := by simpa [upward] using member
      rw [same]
      exact ⟨rfl, List.suffix_refl _⟩
  | cons first rest ih =>
      rcases List.mem_cons.mp member with same | above
      · rw [same]
        exact ⟨rfl, [], List.reverse_reverse _⟩
      · obtain ⟨sameRoot, inside⟩ := ih above
        exact ⟨sameRoot, inside.trans (List.suffix_cons first rest)⟩

def ancestors (p : Path) : List Path := upward p.root p.parts.reverse

theorem ancestor_above (p above : Path) (member : above ∈ p.ancestors) : above.Above p := by
  obtain ⟨root, suffix⟩ := mem_upward p.root p.parts.reverse above member
  exact ⟨root, List.reverse_suffix.mp suffix⟩

theorem ancestors_self (p : Path) : ∃ above, p.ancestors = p :: above := by
  obtain ⟨root, parts⟩ := p
  rw [ancestors]
  cases backwards : parts.reverse with
  | nil =>
      have empty : parts = [] := List.reverse_eq_nil_iff.mp backwards
      exact ⟨[], by rw [upward, empty]⟩
  | cons last rest =>
      have whole : (last :: rest).reverse = parts := by rw [← backwards, List.reverse_reverse]
      exact ⟨upward root rest, by rw [upward, whole]⟩

theorem ancestors_step (p : Path) : p.ancestors = p :: if p.parent = p then [] else p.parent.ancestors := by
  by_cases top : p.parent = p
  · have bare := (parent_self_iff p).mp top
    rw [if_pos top, ancestors, bare, List.reverse_nil, upward, ← bare]
  · obtain ⟨upper, last, split⟩ := (List.eq_nil_or_concat p.parts).resolve_left (mt (parent_self_iff p).mpr top)
    rw [List.concat_eq_append] at split
    have above : p.parent = ⟨p.root, upper⟩ := by rw [parent, split, List.dropLast_concat]
    rw [if_neg top, above, ancestors, ancestors, split, List.reverse_concat, upward, ← List.reverse_concat,
      List.reverse_reverse, ← split]

def name (p : Path) : Text := p.parts.getLast?.getD []

def child (p : Path) (part : Text) : Path := ⟨p.root, p.parts ++ [part]⟩

def relativeTo? (p base : Path) : Option (List Text) :=
  if p.root = base.root then
    if base.parts.isPrefixOf p.parts then some (p.parts.drop base.parts.length) else none
  else none

-- The end of a name from its last dot on, if that dot is neither its first nor its last character.
def suffixOf (name : Text) : Text :=
  let tail := (name.reverse.takeWhile (· ≠ .scalar '.')).reverse
  if tail.length < name.length ∧ tail ≠ [] ∧ tail.length + 1 < name.length then
    .scalar '.' :: tail
  else []

def suffix (p : Path) : Text := suffixOf p.name

def joinText (head tail : Text) : Text :=
  match tail with
  | first :: _ =>
    if first = slash then tail
    else if head = [] ∨ head.getLast? = some slash then head ++ tail
    else head ++ slash :: tail
  | [] => if head = [] ∨ head.getLast? = some slash then head else head ++ [slash]

-- The text before the last slash, without the slashes at its end unless it has nothing else.
def directoryOf (t : Text) : Text :=
  let head := (t.reverse.dropWhile (· ≠ slash)).reverse
  if head.all (· = slash) then head else (head.reverse.dropWhile (· = slash)).reverse

end Path

end Linkage
