import Linkage.Proofs.Respect

set_option autoImplicit false

namespace Linkage

namespace Classification

open Node

-- Definitions and declarators have code below their parts.
def holdsCode (kind : String) : Bool := (definitionKind? kind).isSome || kind == "variable_declarator"

inductive Nested (parent c : Node) : Prop where
  | code (kind : holdsCode parent.kind = true)
  | value (kind : parent.kind = "export_statement") (unread : UnreadValue parent c)
  | parsed (kind : parent.kind = errorKind) (other : c.kind ≠ errorKind)

mutual

inductive Alike : Node → Node → Prop where
  | node (n m : Node) (label : SameLabel n m) (below : AlikeBelow n n.children m.children) : Alike n m

inductive AlikeBelow : Node → List Node → List Node → Prop where
  | nil (parent : Node) : AlikeBelow parent [] []
  | read (parent c d : Node) (cs ds : List Node) (same : Alike c d) (rest : AlikeBelow parent cs ds) :
      AlikeBelow parent (c :: cs) (d :: ds)
  | unread (parent c d : Node) (cs ds : List Node) (label : SameLabel c d) (nested : Nested parent c)
      (rest : AlikeBelow parent cs ds) : AlikeBelow parent (c :: cs) (d :: ds)

end

-- Statements that are passed over may differ in their children and their error mark; all others
-- only below what does not matter.
inductive AlikeStatement (n m : Node) : Prop where
  | aside (passed : n.kind ∉ statementKinds) (kind : n.kind = m.kind) (start : n.start = m.start)
      (stop : n.stop = m.stop) (named : n.named = m.named) (field : n.field = m.field)
  | alike (same : Alike n m)

theorem alike_label (n m : Node) (same : Alike n m) : SameLabel n m := by
  cases same with
  | node _ _ label _ => exact label

theorem alike_below (parent : Node) (ns ms : List Node) (below : AlikeBelow parent ns ms) :
    List.Forall₂ (fun c d => Alike c d ∨ SameLabel c d ∧ Nested parent c) ns ms := by
  induction ns generalizing ms with
  | nil =>
      cases below with
      | nil => exact .nil
  | cons n ns ih =>
      cases below with
      | read _ _ m _ ms same rest => exact .cons (Or.inl same) (ih ms rest)
      | unread _ _ m _ ms label nested rest => exact .cons (Or.inr ⟨label, nested⟩) (ih ms rest)

theorem alike_children (n m : Node) (same : Alike n m) :
    List.Forall₂ (fun c d => Alike c d ∨ SameLabel c d ∧ Nested n c) n.children m.children := by
  cases same with
  | node _ _ _ below => exact alike_below n _ _ below

theorem alike_child_labels (n m : Node) (same : Alike n m) : List.Forall₂ SameLabel n.children m.children := by
  apply (alike_children n m same).imp
  rintro c d (deeper | ⟨label, _⟩)
  · exact alike_label c d deeper
  · exact label

theorem nested_not_branch (parent c : Node) (nested : Nested parent c) : parent.kind ∉ branchKinds := by
  intro listed
  cases nested with
  | code kind =>
      have plain : ∀ k ∈ branchKinds, holdsCode k = false := by decide
      rw [plain parent.kind listed] at kind
      contradiction
  | value kind _ =>
      rw [kind] at listed
      exact absurd listed (by decide)
  | parsed kind _ =>
      rw [kind] at listed
      exact absurd listed (by decide)

theorem nested_in_error (parent c : Node) (nested : Nested parent c) (kind : parent.kind = errorKind) :
    c.kind ≠ errorKind := by
  cases nested with
  | code holds =>
      rw [kind] at holds
      exact absurd holds (by decide)
  | value exporting _ =>
      rw [kind] at exporting
      exact absurd exporting (by decide)
  | parsed _ other => exact other

theorem nested_in_export (parent c : Node) (nested : Nested parent c) (kind : parent.kind = "export_statement") :
    UnreadValue parent c := by
  cases nested with
  | code holds =>
      rw [kind] at holds
      exact absurd holds (by decide)
  | value _ unread => exact unread
  | parsed broken _ =>
      rw [kind] at broken
      exact absurd broken (by decide)

theorem alike_respectful : Respectful Alike where
  twig n m same := ⟨alike_label n m same, .of_forall (alike_child_labels n m same)⟩
  below n m same listed := by
    apply Interspersed.of_forall
    apply (alike_children n m same).imp
    rintro c d (deeper | ⟨_, nested⟩)
    · exact deeper
    · exact absurd listed (nested_not_branch n c nested)
  errors n m same broken := by
    apply Interspersed.of_forall
    apply (alike_children n m same).imp
    rintro c d (deeper | ⟨label, nested⟩)
    · exact ⟨alike_label c d deeper, fun _ => deeper⟩
    · exact ⟨label, fun again => absurd again (nested_in_error n c nested broken)⟩
  exports n m same exporting := by
    apply Interspersed.of_forall
    apply (alike_children n m same).imp
    rintro c d (deeper | ⟨label, nested⟩)
    · exact Or.inl deeper
    · exact Or.inr ⟨label, nested_in_export n c nested exporting⟩

theorem alike_first_child (n m : Node) (same : Alike n m) :
    Option.Rel SameLabel n.children.head? m.children.head? := by
  have labels := alike_child_labels n m same
  generalize n.children = children at labels ⊢
  generalize m.children = otherChildren at labels ⊢
  cases labels with
  | nil => exact .none
  | cons label _ => exact .some label

theorem alike_opening_kept (n m : Node) (same : Alike n m) (exporting : n.kind = "export_statement") :
    OpeningKept n m := by
  intro v w left right
  have declared := alike_respectful.exported_variables n m same exporting
  rw [left, right] at declared
  cases declared with
  | some alike => exact opening_same v w (alike_first_child v w alike)

theorem alike_statement_same (n m : Node) (alike : AlikeStatement n m) : SameStatement n m := by
  cases alike with
  | aside passed kind _ _ _ _ => exact .aside passed kind
  | alike same => exact alike_respectful.same_statement n m same (alike_opening_kept n m same)

theorem classify_nested_ignored (resolve : Resolution) (source : Bytes) (file directory : Text)
    (nodes others : List Node) (alike : List.Forall₂ AlikeStatement nodes others) :
    classify resolve source file directory nodes = classify resolve source file directory others := by
  have same : Interspersed SameStatement nodes others := .of_forall (alike.imp alike_statement_same)
  exact statements_same _ nodes others same

-- `g();export function f(){}export default[]`
def filledSource : Bytes :=
  [103, 40, 41, 59, 101, 120, 112, 111, 114, 116, 32, 102, 117, 110, 99, 116, 105, 111, 110, 32, 102, 40, 41,
    123, 125, 101, 120, 112, 111, 114, 116, 32, 100, 101, 102, 97, 117, 108, 116, 91, 93]

def filledDefinition (inner : List Node) : Node :=
  ⟨"function_declaration", 11, 25, true, some "declaration", false,
    [⟨"function", 11, 19, false, none, false, []⟩, ⟨"identifier", 20, 21, true, some "name", false, []⟩,
      ⟨"statement_block", 23, 25, true, some "body", false, inner⟩]⟩

def filledModule (broken : Bool) (inner : List Node) : List Node :=
  [⟨"expression_statement", 0, 4, true, none, broken, inner⟩,
    ⟨"export_statement", 4, 25, true, none, false, [⟨"export", 4, 10, false, none, false, []⟩, filledDefinition inner]⟩,
    ⟨"export_statement", 25, 41, true, none, false,
      [⟨"export", 25, 31, false, none, false, []⟩, ⟨"default", 32, 39, false, none, false, []⟩,
        ⟨"array", 39, 41, true, some "value", false, inner⟩]⟩,
    ⟨errorKind, 41, 41, true, none, true, [⟨"statement_block", 41, 41, true, none, false, inner⟩]⟩]

theorem alike_leaf (n : Node) (leaf : n.children = []) : Alike n n := by
  refine .node n n ⟨rfl, rfl, rfl, rfl, rfl, rfl⟩ ?_
  rw [leaf]
  exact .nil n

theorem filled_definition_alike (inner others : List Node) :
    Alike (filledDefinition inner) (filledDefinition others) := by
  refine .node _ _ ⟨rfl, rfl, rfl, rfl, rfl, rfl⟩ ?_
  refine .read _ _ _ _ _ (alike_leaf _ rfl) (.read _ _ _ _ _ (alike_leaf _ rfl) ?_)
  exact .unread _ _ _ _ _ ⟨rfl, rfl, rfl, rfl, rfl, rfl⟩ (.code rfl) (.nil _)

theorem filled_module_alike (broken otherBroken : Bool) (inner others : List Node) :
    List.Forall₂ AlikeStatement (filledModule broken inner) (filledModule otherBroken others) := by
  refine .cons ?_ (.cons ?_ (.cons ?_ (.cons ?_ .nil)))
  · exact .aside (by simp [statementKinds, errorKind]) rfl rfl rfl rfl rfl
  · refine .alike (.node _ _ ⟨rfl, rfl, rfl, rfl, rfl, rfl⟩ ?_)
    exact .read _ _ _ _ _ (alike_leaf _ rfl) (.read _ _ _ _ _ (filled_definition_alike inner others) (.nil _))
  · refine .alike (.node _ _ ⟨rfl, rfl, rfl, rfl, rfl, rfl⟩ ?_)
    refine .read _ _ _ _ _ (alike_leaf _ rfl) (.read _ _ _ _ _ (alike_leaf _ rfl) ?_)
    exact .unread _ _ _ _ _ ⟨rfl, rfl, rfl, rfl, rfl, rfl⟩ (.value rfl ⟨rfl, Or.inl rfl⟩) (.nil _)
  · refine .alike (.node _ _ ⟨rfl, rfl, rfl, rfl, rfl, rfl⟩ ?_)
    exact .unread _ _ _ _ _ ⟨rfl, rfl, rfl, rfl, rfl, rfl⟩ (.parsed rfl (by simp [errorKind])) (.nil _)

def hiddenImport : Node := ⟨"import_statement", 0, 1, true, none, true, []⟩

theorem classify_nested_ignored_import :
    List.Forall₂ AlikeStatement (filledModule true [hiddenImport]) (filledModule false []) ∧
    classify (Resolver.standard.resolve (Disk.ofLists [] [])) filledSource (Text.ofString "/d/m.js") (Text.ofString "/d")
      (filledModule true [hiddenImport]) =
        ⟨[], .ok ⟨[], [.declaration ⟨4, 25⟩ false (.definitions .function [⟨Text.ofString "f", none⟩])], []⟩⟩ := by
  have alike := filled_module_alike true false [hiddenImport] []
  refine ⟨alike, ?_⟩
  rw [classify_nested_ignored _ _ _ _ _ _ alike]
  rfl

end Classification

end Linkage
