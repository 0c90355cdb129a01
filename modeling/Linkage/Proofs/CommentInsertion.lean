import Linkage.Proofs.Respect

set_option autoImplicit false

namespace Linkage

namespace Classification

open Node

inductive Commented : Node → Node → Prop where
  | node (n m : Node) (label : SameLabel n m) (below : Interspersed Commented n.children m.children) : Commented n m

-- A statement with comments in it; in the variable statement that it exports, if any, the first
-- child is still the first.
structure CommentedStatement (n m : Node) : Prop where
  inserted : Commented n m
  first : n.kind = "export_statement" → ∀ v w, exportedVariables? n = some v → exportedVariables? m = some w →
    Option.Rel Commented v.children.head? w.children.head?

theorem Commented.label {n m : Node} (inserted : Commented n m) : SameLabel n m := by
  cases inserted with
  | node _ _ label _ => exact label

theorem Commented.children {n m : Node} (inserted : Commented n m) : Interspersed Commented n.children m.children := by
  cases inserted with
  | node _ _ _ below => exact below

theorem commented_respectful : Respectful Commented where
  twig _ _ inserted := ⟨inserted.label, inserted.children.mono fun _ _ deeper => deeper.label⟩
  below _ _ inserted _ := inserted.children
  errors _ _ inserted _ := inserted.children.mono fun _ _ deeper => ⟨deeper.label, fun _ => deeper⟩
  exports _ _ inserted _ := inserted.children.mono fun _ _ deeper => Or.inl deeper

theorem commented_statement_same (n m : Node) (commented : CommentedStatement n m) : SameStatement n m := by
  apply commented_respectful.same_statement n m commented.inserted
  intro exporting v w left right
  apply opening_same
  exact rel_of_found _ _ (commented.first exporting v w left right) fun _ _ _ _ inserted => inserted.label

theorem classify_comments_ignored (resolve : Resolution) (source : Bytes) (file directory : Text)
    (nodes commented : List Node) (inserted : Interspersed CommentedStatement nodes commented) :
    classify resolve source file directory commented = classify resolve source file directory nodes := by
  have same : Interspersed SameStatement nodes commented := inserted.mono commented_statement_same
  exact (statements_same _ nodes commented same).symm

-- `export/**/const/**/x//`
def spreadSource : Bytes :=
  [101, 120, 112, 111, 114, 116, 47, 42, 42, 47, 99, 111, 110, 115, 116, 47, 42, 42, 47, 120, 47, 47]

def commentAt (start stop : Int) : Node := ⟨"comment", start, stop, true, none, false, []⟩

def spreadDeclarator : Node :=
  ⟨"variable_declarator", 19, 20, true, none, false, [⟨"identifier", 19, 20, true, some "name", false, []⟩]⟩

def spreadVariables (between : List Node) : Node :=
  ⟨"lexical_declaration", 10, 20, true, some "declaration", false,
    ⟨"const", 10, 15, false, none, false, []⟩ :: between ++ [spreadDeclarator]⟩

def spreadExport (between inner : List Node) : Node :=
  ⟨"export_statement", 0, 20, true, none, false,
    ⟨"export", 0, 6, false, none, false, []⟩ :: between ++ [spreadVariables inner]⟩

theorem commented_self (n : Node) (leaf : n.children = []) : Commented n n := by
  refine .node n n ⟨rfl, rfl, rfl, rfl, rfl, rfl⟩ ?_
  rw [leaf]
  exact .nil

theorem spread_declarator_commented : Commented spreadDeclarator spreadDeclarator := by
  refine .node _ _ ⟨rfl, rfl, rfl, rfl, rfl, rfl⟩ ?_
  exact .kept _ _ _ _ (commented_self _ rfl) .nil

theorem spread_export_commented :
    CommentedStatement (spreadExport [] []) (spreadExport [commentAt 6 10] [commentAt 15 19]) := by
  have inner : Commented (spreadVariables []) (spreadVariables [commentAt 15 19]) := by
    refine .node _ _ ⟨rfl, rfl, rfl, rfl, rfl, rfl⟩ ?_
    exact .kept _ _ _ _ (commented_self _ rfl)
      (.comment _ _ _ ⟨rfl, rfl, rfl, rfl⟩ (.kept _ _ _ _ spread_declarator_commented .nil))
  refine ⟨?_, ?_⟩
  · refine .node _ _ ⟨rfl, rfl, rfl, rfl, rfl, rfl⟩ ?_
    exact .kept _ _ _ _ (commented_self _ rfl) (.comment _ _ _ ⟨rfl, rfl, rfl, rfl⟩ (.kept _ _ _ _ inner .nil))
  · intro _ v w left right
    have plain : exportedVariables? (spreadExport [] []) = some (spreadVariables []) := rfl
    have commented : exportedVariables? (spreadExport [commentAt 6 10] [commentAt 15 19]) =
        some (spreadVariables [commentAt 15 19]) := rfl
    rw [plain] at left
    rw [commented] at right
    cases left
    cases right
    exact .some (commented_self _ rfl)

theorem classify_comments_ignored_spread :
    Interspersed CommentedStatement [spreadExport [] []]
      [spreadExport [commentAt 6 10] [commentAt 15 19], commentAt 20 22] ∧
    classify (Resolver.standard.resolve (Disk.ofLists [] [])) spreadSource (Text.ofString "/d/m.js") (Text.ofString "/d")
      [spreadExport [commentAt 6 10] [commentAt 15 19], commentAt 20 22] =
        ⟨[], .ok ⟨[], [.declaration ⟨0, 20⟩ false (.ofVariables [(⟨Text.ofString "x", none⟩, .constKeyword)])], []⟩⟩ := by
  have inserted : Interspersed CommentedStatement [spreadExport [] []]
      [spreadExport [commentAt 6 10] [commentAt 15 19], commentAt 20 22] :=
    .kept _ _ _ _ spread_export_commented (.comment _ _ _ ⟨rfl, rfl, rfl, rfl⟩ .nil)
  refine ⟨inserted, ?_⟩
  rw [classify_comments_ignored _ _ _ _ _ _ inserted]
  rfl

end Classification

end Linkage
