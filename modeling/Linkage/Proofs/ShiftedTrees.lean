import Linkage.Proofs.Respect

set_option autoImplicit false

namespace Linkage

def Span.shift (d : Int) (s : Span) : Span := ⟨s.start + d, s.stop + d⟩

namespace Bytes

theorem place_nonneg (length : Nat) (offset : Int) (nonneg : 0 ≤ offset) :
    place length offset = min offset.toNat length := by
  rw [place, if_neg (by omega)]

-- A start past the stop, or past the end of the source, leaves nothing on both sides.
theorem slice_inside (before source after : Bytes) (start stop : Int) (startNonneg : 0 ≤ start) (stopNonneg : 0 ≤ stop)
    (inside : stop ≤ source.length) :
    slice (before ++ source ++ after) (start + before.length) (stop + before.length) = slice source start stop := by
  have total : (before ++ source ++ after).length = before.length + source.length + after.length := by
    simp only [List.length_append]
  have stopPlace : place (before ++ source ++ after).length (stop + before.length) = before.length + stop.toNat := by
    rw [place_nonneg _ _ (by omega)]
    omega
  have startPlace : place (before ++ source ++ after).length (start + before.length) =
      before.length + min start.toNat (source.length + after.length) := by
    rw [place_nonneg _ _ (by omega)]
    omega
  have upTo : (before ++ source ++ after).take (before.length + stop.toNat) = before ++ source.take stop.toNat := by
    rw [List.append_assoc, List.take_length_add_append, List.take_append_of_le_length (by omega)]
  have ownStop : min stop.toNat source.length = stop.toNat := by omega
  rw [slice, slice, stopPlace, startPlace, upTo, List.drop_length_add_append, place_nonneg _ _ startNonneg,
    place_nonneg _ _ stopNonneg, ownStop]
  by_cases ordered : start.toNat ≤ source.length
  · rw [Nat.min_eq_left (by omega), Nat.min_eq_left ordered]
  · rw [List.drop_eq_nil_of_le, List.drop_eq_nil_of_le]
    · simp only [List.length_take]
      omega
    · simp only [List.length_take]
      omega

end Bytes

namespace Node

mutual

def shift (d : Int) : Node → Node
  | ⟨kind, start, stop, named, field, hasError, children⟩ =>
    ⟨kind, start + d, stop + d, named, field, hasError, shiftAll d children⟩

def shiftAll (d : Int) : List Node → List Node
  | [] => []
  | n :: rest => n.shift d :: shiftAll d rest

end

variable (d : Int)

theorem shift_all_map (nodes : List Node) : shiftAll d nodes = nodes.map (shift d) := by
  induction nodes with
  | nil => rfl
  | cons n rest ih => rw [shiftAll, ih, List.map_cons]

@[simp] theorem shift_kind (n : Node) : (n.shift d).kind = n.kind := by
  cases n
  rfl

@[simp] theorem shift_named (n : Node) : (n.shift d).named = n.named := by
  cases n
  rfl

@[simp] theorem shift_field (n : Node) : (n.shift d).field = n.field := by
  cases n
  rfl

@[simp] theorem shift_has_error (n : Node) : (n.shift d).hasError = n.hasError := by
  cases n
  rfl

@[simp] theorem shift_span (n : Node) : (n.shift d).span = n.span.shift d := by
  cases n
  rfl

@[simp] theorem shift_children (n : Node) : (n.shift d).children = n.children.map (shift d) := by
  cases n with
  | mk _ _ _ _ _ _ children => exact shift_all_map d children

-- What depends on kinds, names and fields alone sees the same of a node after a shift.
@[simp] theorem named_children_shift (n : Node) : (n.shift d).namedChildren = n.namedChildren.map (shift d) := by
  simp only [namedChildren, shift_children, List.filter_map, Function.comp_def, shift_named]

@[simp] theorem child_of_kind_shift (n : Node) (kind : String) :
    (n.shift d).childOfKind? kind = (n.childOfKind? kind).map (shift d) := by
  simp only [childOfKind?, shift_children, List.find?_map, Function.comp_def, shift_kind]

@[simp] theorem child_in_field_shift (n : Node) (field : String) :
    (n.shift d).childInField? field = (n.childInField? field).map (shift d) := by
  simp only [childInField?, shift_children, List.find?_map, Function.comp_def, shift_field]

mutual

@[simp] theorem mentions_shift (n : Node) : (n.shift d).mentionsModule = n.mentionsModule := by
  cases n with
  | mk _ _ _ _ _ _ children => exact any_mentions_shift children

theorem any_mentions_shift (nodes : List Node) : anyMentionsModule (shiftAll d nodes) = anyMentionsModule nodes := by
  cases nodes with
  | nil => rfl
  | cons n rest =>
      rw [shiftAll, anyMentionsModule, anyMentionsModule, shift_kind, mentions_shift n, any_mentions_shift rest]

end

-- All stops of a tree lie in a source of the given size, and no offset counts from its end.
inductive Within (size : Nat) : Node → Prop where
  | node (n : Node) (start : 0 ≤ n.start) (stop : 0 ≤ n.stop) (inside : n.stop ≤ size)
      (below : ∀ c ∈ n.children, Within size c) : Within size n

variable {size : Nat}

theorem Within.child {n c : Node} (within : n.Within size) (member : c ∈ n.children) : c.Within size := by
  cases within with
  | node _ _ _ _ below => exact below c member

theorem Within.named_child {n c : Node} (within : n.Within size) (member : c ∈ n.namedChildren) : c.Within size :=
  within.child (List.mem_of_mem_filter member)

theorem Within.child_of_kind {n c : Node} {kind : String} (within : n.Within size)
    (found : n.childOfKind? kind = some c) : c.Within size :=
  within.child (child_of_kind_found n c kind found).1

theorem Within.child_in_field {n c : Node} {field : String} (within : n.Within size)
    (found : n.childInField? field = some c) : c.Within size :=
  within.child (child_in_field_found n c field found).1

theorem text_shift (n : Node) (before source after : Bytes) (within : n.Within source.length) :
    (n.shift before.length).text (before ++ source ++ after) = n.text source := by
  cases within with
  | node _ start stop inside _ =>
      rw [text_span, shift_span]
      exact congrArg Utf8.decodeLossy (Bytes.slice_inside before source after n.start n.stop start stop inside)

end Node

end Linkage
