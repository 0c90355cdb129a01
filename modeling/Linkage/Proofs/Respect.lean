import Linkage.Proofs.Footprint

set_option autoImplicit false

namespace Linkage

namespace Node

-- A relation that follows the descent through error nodes keeps what the descent finds. The
-- recursion is on the second tree, which may have more nodes.
mutual

theorem mentions_same (R : Node → Node → Prop)
    (opens : ∀ n m, R n m → Interspersed (fun c d => SameLabel c d ∧ (c.kind = errorKind → R c d)) n.children m.children)
    (n m : Node) (related : R n m) : n.mentionsModule = m.mentionsModule := by
  have below := opens n m related
  obtain ⟨_, _, _, _, _, _, children⟩ := n
  match m with
  | ⟨_, _, _, _, _, _, others⟩ => exact any_mentions_same R opens children others below

theorem any_mentions_same (R : Node → Node → Prop)
    (opens : ∀ n m, R n m → Interspersed (fun c d => SameLabel c d ∧ (c.kind = errorKind → R c d)) n.children m.children)
    (ns ms : List Node)
    (related : Interspersed (fun c d => SameLabel c d ∧ (c.kind = errorKind → R c d)) ns ms) :
    anyMentionsModule ns = anyMentionsModule ms := by
  match ms with
  | [] =>
      cases related with
      | nil => rfl
  | m :: ms =>
      cases related with
      | comment _ _ _ trivia rest =>
          have passed := any_mentions_same R opens ns ms rest
          simp [anyMentionsModule, trivia.1, moduleKinds, errorKind, passed]
      | kept n _ ns _ same rest =>
          have later := any_mentions_same R opens ns ms rest
          have own : (n.kind == errorKind && n.mentionsModule) = (m.kind == errorKind && m.mentionsModule) := by
            by_cases broken : n.kind = errorKind
            · rw [same.1.kind, mentions_same R opens n m (same.2 broken)]
            · rw [← same.1.kind, beq_eq_false_iff_ne.mpr broken, Bool.false_and, Bool.false_and]
          rw [anyMentionsModule, anyMentionsModule, later, own, same.1.kind]

end

theorem child_of_kind_found (n c : Node) (kind : String) (found : n.childOfKind? kind = some c) :
    c ∈ n.children ∧ c.kind = kind := by
  have met := List.find?_some found
  exact ⟨List.mem_of_find?_eq_some found, eq_of_beq met⟩

theorem child_in_field_found (n c : Node) (field : String) (found : n.childInField? field = some c) :
    c ∈ n.children ∧ c.field = some field := by
  have met := List.find?_some found
  exact ⟨List.mem_of_find?_eq_some found, eq_of_beq met⟩

theorem rel_of_found {R S : Node → Node → Prop} (x y : Option Node) (related : Option.Rel R x y)
    (refined : ∀ c d, x = some c → y = some d → R c d → S c d) : Option.Rel S x y := by
  cases related with
  | none => exact .none
  | some same => exact .some (refined _ _ rfl rfl same)

end Node

namespace Classification

open Node

def branchKinds : List String :=
  ["import_statement", "import_clause", "named_imports", "export_clause", "ambient_declaration", "lexical_declaration",
    "variable_declaration"]

-- A value of an export that is not looked into: no definition, or not the default.
def UnreadValue (parent c : Node) : Prop :=
  c.field = some "value" ∧ (definitionKind? c.kind = none ∨ parent.childOfKind? "default" = none)

-- Related nodes have the same label and children with the same labels; where more than that is
-- read, the children are related again.
structure Respectful (R : Node → Node → Prop) : Prop where
  twig : ∀ n m, R n m → SameTwig n m
  below : ∀ n m, R n m → n.kind ∈ branchKinds → Interspersed R n.children m.children
  errors : ∀ n m, R n m → n.kind = errorKind →
    Interspersed (fun c d => SameLabel c d ∧ (c.kind = errorKind → R c d)) n.children m.children
  exports : ∀ n m, R n m → n.kind = "export_statement" →
    Interspersed (fun c d => R c d ∨ SameLabel c d ∧ UnreadValue n c) n.children m.children

def bodyOf? (declaration : Node) : Option Node :=
  if declaration.kind == "ambient_declaration" then ambientBody? declaration else some declaration

def variablesOf? (declaration : Node) : Option Node :=
  (bodyOf? declaration).filter fun n => isVariableStatement n.kind

def exportedVariables? (statement : Node) : Option Node :=
  (statement.childInField? "declaration").bind variablesOf?

def OpeningKept (n m : Node) : Prop :=
  ∀ v w, exportedVariables? n = some v → exportedVariables? m = some w → opening v = opening w

theorem ambiguous_of_value (p : ExportParts) (value : p.value.isSome = true)
    (other : p.clause.isSome = true ∨ p.marker.isSome = true) : p.isAmbiguous = true := by
  simp only [ExportParts.isAmbiguous, ← List.countP_eq_length_filter, List.countP_cons, List.countP_nil, value, if_true,
    Bool.or_eq_true, decide_eq_true_eq]
  rcases other with clause | marker
  · simp only [clause, if_true]
    omega
  · simp only [marker, if_true]
    omega

-- A clear export with a value has no part that is found by its kind.
theorem clear_of_value (n c : Node) (member : c ∈ n.children) (field : c.field = some "value")
    (clear : (ExportParts.ofStatement n).isAmbiguous = false) :
    n.childOfKind? "export_clause" = none ∧ n.childOfKind? "namespace_export" = none := by
  have value : (ExportParts.ofStatement n).value.isSome = true :=
    List.find?_isSome.mpr ⟨c, member, by rw [field]; rfl⟩
  have alone : ¬ ((ExportParts.ofStatement n).clause.isSome = true ∨
      (ExportParts.ofStatement n).marker.isSome = true) := by
    intro other
    rw [ambiguous_of_value _ value other] at clear
    contradiction
  simp only [ExportParts.marker, Option.isSome_or, Bool.or_eq_true, not_or, Option.not_isSome_iff_eq_none] at alone
  exact ⟨alone.1, alone.2.1⟩

namespace Respectful

variable {R : Node → Node → Prop} (respects : Respectful R)

include respects

theorem label (n m : Node) (related : R n m) : SameLabel n m := (respects.twig n m related).label

theorem above (n m : Node) (related : R n m) (kind : n.kind ∈ branchKinds) : SameAbove R n m :=
  ⟨respects.label n m related, respects.below n m related kind⟩

theorem branch (n m : Node) (related : R n m) (kind : n.kind ∈ branchKinds) : SameBranch n m :=
  (respects.above n m related kind).mono respects.twig

theorem import_clause (n m : Node) (related : R n m) (kind : n.kind = "import_clause") : SameAbove SamePart n m := by
  have above := respects.above n m related (by rw [kind]; decide)
  apply above.mono
  intro c d part
  exact ⟨respects.twig c d part, fun listed => respects.branch c d part (by rw [listed]; decide)⟩

theorem mentions (n m : Node) (related : R n m) (kind : n.kind = errorKind) :
    n.mentionsModule = m.mentionsModule := by
  apply mentions_same (fun c d => R c d ∧ c.kind = errorKind) _ n m ⟨related, kind⟩
  rintro c d ⟨same, broken⟩
  apply (respects.errors c d same broken).mono
  rintro e f ⟨label, deeper⟩
  exact ⟨label, fun again => ⟨deeper again, again⟩⟩

theorem ambient_body (n m : Node) (related : R n m) (kind : n.kind = "ambient_declaration") :
    Option.Rel R (ambientBody? n) (ambientBody? m) := by
  have above := respects.above n m related (by rw [kind]; decide)
  apply (above.named_children respects.label).find
  · intro c d same
    rw [(respects.label c d same).kind]
  · rintro c ⟨comment, _⟩
    rw [comment]
    rfl

theorem body_of (n m : Node) (related : R n m) : Option.Rel R (bodyOf? n) (bodyOf? m) := by
  rw [bodyOf?, bodyOf?, ← (respects.label n m related).kind]
  split
  · rename_i kind
    exact respects.ambient_body n m related (eq_of_beq kind)
  · exact .some related

theorem variables_of (n m : Node) (related : R n m) : Option.Rel R (variablesOf? n) (variablesOf? m) := by
  have bodies := respects.body_of n m related
  rw [variablesOf?, variablesOf?]
  generalize bodyOf? n = body at bodies ⊢
  generalize bodyOf? m = otherBody at bodies ⊢
  cases bodies with
  | none => exact .none
  | some same =>
      rw [Option.filter_some, Option.filter_some, ← (respects.label _ _ same).kind]
      split
      · exact .some same
      · exact .none

theorem plain (n m : Node) (related : R n m)
    (opened : isVariableStatement n.kind = true → opening n = opening m) : SamePlain n m := by
  refine ⟨respects.twig n m related, fun declares => ⟨respects.branch n m related ?_, opened declares⟩⟩
  rcases Bool.or_eq_true_iff.mp declares with lexical | functionScoped
  · rw [eq_of_beq lexical]
    decide
  · rw [eq_of_beq functionScoped]
    decide

theorem declaration (n m : Node) (related : R n m)
    (opened : ∀ v w, variablesOf? n = some v → variablesOf? m = some w → opening v = opening w) :
    SameDeclaration n m := by
  have kinds := (respects.label n m related).kind
  have bodies : Option.Rel SamePlain (bodyOf? n) (bodyOf? m) := by
    apply rel_of_found _ _ (respects.body_of n m related)
    intro v w left right same
    refine respects.plain v w same fun declares => opened v w ?_ ?_
    · rw [variablesOf?, left, Option.filter_some, if_pos declares]
    · rw [variablesOf?, right, Option.filter_some, if_pos ((respects.label v w same).kind ▸ declares)]
  refine ⟨kinds, ?_, ?_⟩
  · intro ambient
    have left : bodyOf? n = ambientBody? n := by simp [bodyOf?, ambient]
    have right : bodyOf? m = ambientBody? m := by simp [bodyOf?, ← kinds, ambient]
    rwa [left, right] at bodies
  · intro direct
    have left : bodyOf? n = some n := by simp [bodyOf?, direct]
    have right : bodyOf? m = some m := by simp [bodyOf?, ← kinds, direct]
    rw [left, right] at bodies
    cases bodies with
    | some plain => exact plain

theorem export_label (n c d : Node) (same : R c d ∨ SameLabel c d ∧ UnreadValue n c) : SameLabel c d := by
  rcases same with related | ⟨label, _⟩
  · exact respects.label c d related
  · exact label

theorem export_above (n m : Node) (related : R n m) (kind : n.kind = "export_statement") :
    SameAbove (fun c d => R c d ∨ SameLabel c d ∧ UnreadValue n c) n m :=
  ⟨respects.label n m related, respects.exports n m related kind⟩

theorem export_field (n m : Node) (related : R n m) (kind : n.kind = "export_statement") (field : String)
    (other : field ≠ "value") : Option.Rel R (n.childInField? field) (m.childInField? field) := by
  have above := respects.export_above n m related kind
  apply rel_of_found _ _ (above.child_in_field (respects.export_label n) field)
  rintro c d found _ (same | ⟨_, unread, _⟩)
  · exact same
  · rw [(child_in_field_found n c field found).2] at unread
    exact absurd (Option.some.inj unread) other

theorem exported_variables (n m : Node) (related : R n m) (kind : n.kind = "export_statement") :
    Option.Rel R (exportedVariables? n) (exportedVariables? m) := by
  have declarations := respects.export_field n m related kind "declaration" (by decide)
  rw [exportedVariables?, exportedVariables?]
  generalize n.childInField? "declaration" = declaration at declarations ⊢
  generalize m.childInField? "declaration" = otherDeclaration at declarations ⊢
  cases declarations with
  | none => exact .none
  | some same => exact respects.variables_of _ _ same

-- A clause or marker beside a value is ambiguous, so what is not read of a value is never a part
-- that is read.
theorem export_content (n m : Node) (related : R n m) (kind : n.kind = "export_statement") (opened : OpeningKept n m)
    (clear : (ExportParts.ofStatement n).isAmbiguous = false) :
    SameContent (ExportParts.ofStatement n) (ExportParts.ofStatement m) := by
  have above := respects.export_above n m related kind
  refine ⟨?_, ?_, ?_, ?_, ?_⟩
  · apply rel_of_found _ _ (respects.export_field n m related kind "source" (by decide))
    exact fun c d _ _ same => respects.twig c d same
  · apply rel_of_found _ _ (above.child_of_kind (respects.export_label n) "export_clause" (by decide))
    rintro c d found _ (same | ⟨_, unread, _⟩)
    · exact respects.branch c d same (by rw [(child_of_kind_found n c _ found).2]; decide)
    · have missing := (clear_of_value n c (child_of_kind_found n c _ found).1 unread clear).1
      rw [missing] at found
      contradiction
  · apply rel_of_found _ _ (above.child_of_kind (respects.export_label n) "namespace_export" (by decide))
    rintro c d found _ (same | ⟨_, unread, _⟩)
    · exact respects.twig c d same
    · have missing := (clear_of_value n c (child_of_kind_found n c _ found).1 unread clear).2
      rw [missing] at found
      contradiction
  · apply rel_of_found _ _ (respects.export_field n m related kind "declaration" (by decide))
    intro c d left right same
    refine respects.declaration c d same fun v w leftOne rightOne => opened v w ?_ ?_
    · rw [exportedVariables?, left]
      exact leftOne
    · rw [exportedVariables?, right]
      exact rightOne
  · apply rel_of_found _ _ (above.child_in_field (respects.export_label n) "value")
    rintro c d _ _ (same | ⟨label, _, unread⟩)
    · exact ⟨respects.label c d same, fun _ _ => respects.twig c d same⟩
    · refine ⟨label, fun isDefault defines => ?_⟩
      have marked : (n.childOfKind? "default").isSome = true := isDefault
      rcases unread with other | missing
      · simp [other] at defines
      · simp [missing] at marked

theorem same_statement (n m : Node) (related : R n m) (opened : n.kind = "export_statement" → OpeningKept n m) :
    SameStatement n m := by
  have twig := respects.twig n m related
  rcases statement_kind_cases n with broken | importing | exporting | aside
  · exact .broken broken twig.label (respects.mentions n m related broken)
  · have above := respects.above n m related (by rw [importing]; decide)
    refine .importing importing twig ?_ ?_
    · exact rel_of_found _ _ (above.child_in_field respects.label "source") fun c d _ _ same => respects.twig c d same
    · apply rel_of_found _ _ (above.child_of_kind respects.label "import_clause" (by decide))
      intro c d found _ same
      exact respects.import_clause c d same (child_of_kind_found n c _ found).2
  · exact .exporting exporting twig (respects.export_content n m related exporting (opened exporting))
  · exact .aside aside twig.label.kind

end Respectful

end Classification

end Linkage
