import Linkage.Classification
import Linkage.Proofs.NodeParts

set_option autoImplicit false

namespace Linkage

namespace Declared

-- Declarations as one statement makes them: one keyword for all variables, or a single definition,
-- and nothing is renamed.
def Uniform (declared : Declared) : Prop :=
  (∀ part ∈ declared.parts, part.1.newName = none) ∧
    match declared.kind with
    | .ofVariables => ∃ keyword, ∀ part ∈ declared.parts, part.2 = some keyword
    | .definition _ => ∃ declaration, declared.parts = [(declaration, none)]

end Declared

namespace Export

def Uniform : Export → Prop
  | .list _ _ => True
  | .declaration _ _ declared => declared.Uniform

end Export

namespace Classification

def Gives {α : Type} (ctx : Context) (span : Span) (x : Except Failure α) (P : α → Prop) : Prop :=
  (∃ a, x = .ok a ∧ P a) ∨ ∃ reason, x = .error (.unsupported reason span ctx.file)

namespace Gives

variable {α β : Type} {ctx : Context} {span : Span}

theorem result (a : α) (P : α → Prop) (holds : P a) : Gives ctx span (.ok a) P := Or.inl ⟨a, rfl, holds⟩

theorem refusal (reason : Unsupported) (P : α → Prop) : Gives ctx span (unsupported ctx reason span) P :=
  Or.inr ⟨reason, rfl⟩

theorem bind (x : Except Failure α) (f : α → Except Failure β) (P : α → Prop) (Q : β → Prop)
    (first : Gives ctx span x P) (rest : ∀ a, P a → Gives ctx span (f a) Q) : Gives ctx span (x >>= f) Q := by
  rcases first with ⟨a, rfl, holds⟩ | ⟨reason, rfl⟩
  · exact rest a holds
  · exact Or.inr ⟨reason, rfl⟩

theorem holds (x : Except Failure α) (P : α → Prop) (a : α) (gives : Gives ctx span x P) (done : x = .ok a) : P a := by
  rcases gives with ⟨b, rfl, holds⟩ | ⟨reason, rfl⟩
  · cases done
    exact holds
  · cases done

theorem failure (x : Except Failure α) (P : α → Prop) (fault : Failure) (gives : Gives ctx span x P)
    (failed : x = .error fault) : ∃ reason, fault = .unsupported reason span ctx.file := by
  rcases gives with ⟨b, rfl, holds⟩ | ⟨reason, rfl⟩
  · cases failed
  · cases failed
    exact ⟨reason, rfl⟩

end Gives

theorem binding_gives (ctx : Context) (side : Side) (span : Span) (entry : Node) :
    Gives ctx span (binding ctx side span entry) fun _ => True := by
  rw [binding]
  split
  · exact .refusal _ _
  · dsimp only
    split
    · exact .refusal _ _
    · exact .result _ _ trivial

theorem bindings_of_gives (ctx : Context) (side : Side) (span : Span) (entries : List Node) :
    Gives ctx span (bindingsOf ctx side span entries) fun _ => True := by
  induction entries with
  | nil => exact .result _ _ trivial
  | cons entry rest ih =>
      apply Gives.bind _ _ _ _ (binding_gives ctx side span entry)
      intro first _
      apply Gives.bind _ _ _ _ ih
      intro more _
      exact .result _ _ trivial

theorem bindings_gives (ctx : Context) (side : Side) (span : Span) (clause : Node) :
    Gives ctx span (bindings ctx side span clause) fun _ => True :=
  bindings_of_gives ctx side span _

theorem import_part_gives (ctx : Context) (span : Span) (parts : ImportParts) (n : Node) :
    Gives ctx span (importPart ctx span parts n) fun next =>
      (next.whole = parts.whole ∨ n.kind = "namespace_import") ∧
        (next.named = parts.named ∨ n.kind = "named_imports") := by
  rw [importPart]
  split
  · exact .result _ _ ⟨Or.inl rfl, Or.inl rfl⟩
  · split
    · rename_i kind
      split
      · exact .refusal _ _
      · exact .result _ _ ⟨Or.inr (eq_of_beq kind), Or.inl rfl⟩
    · split
      · rename_i kind
        apply Gives.bind _ _ _ _ (bindings_gives ctx .importing span n)
        intro named _
        exact .result _ _ ⟨Or.inl rfl, Or.inr (eq_of_beq kind)⟩
      · exact .result _ _ ⟨Or.inl rfl, Or.inl rfl⟩

theorem import_parts_gives (ctx : Context) (span : Span) (parts : ImportParts) (nodes : List Node) :
    Gives ctx span (importParts ctx span parts nodes) fun last =>
      (last.whole = parts.whole ∨ ∃ n ∈ nodes, n.kind = "namespace_import") ∧
        (last.named = parts.named ∨ ∃ n ∈ nodes, n.kind = "named_imports") := by
  induction nodes generalizing parts with
  | nil => exact .result _ _ ⟨Or.inl rfl, Or.inl rfl⟩
  | cons n rest ih =>
      apply Gives.bind _ _ _ _ (import_part_gives ctx span parts n)
      rintro next ⟨whole, named⟩
      rcases ih next with ⟨last, done, laterWhole, laterNamed⟩ | refused
      · refine Or.inl ⟨last, done, ?_, ?_⟩
        · rcases laterWhole with same | ⟨other, member, kind⟩
          · rcases whole with kept | kind
            · exact Or.inl (same.trans kept)
            · exact Or.inr ⟨n, by simp, kind⟩
          · exact Or.inr ⟨other, by simp [member], kind⟩
        · rcases laterNamed with same | ⟨other, member, kind⟩
          · rcases named with kept | kind
            · exact Or.inl (same.trans kept)
            · exact Or.inr ⟨n, by simp, kind⟩
          · exact Or.inr ⟨other, by simp [member], kind⟩
      · exact Or.inr refused

def BindsTwice (statement : Node) : Prop :=
  ∃ clause, statement.childOfKind? "import_clause" = some clause ∧
    (∃ n ∈ clause.namedChildren, n.kind = "namespace_import") ∧ ∃ n ∈ clause.namedChildren, n.kind = "named_imports"

theorem import_node_gives (ctx : Context) (n : Node) (module : ModuleSpecifier) :
    Gives ctx n.span (importNode ctx n module) (fun node => ¬ (node.whole?.isSome ∧ node.named?.isSome) ∧
      node.module = module ∧ node.span = n.span) ∨
    importNode ctx n module = .error (.parts .wholeAndNamed) ∧ BindsTwice n := by
  rw [importNode]
  split
  · exact Or.inl (.result _ _ ⟨by simp [Import.whole?], rfl, rfl⟩)
  · rename_i clause first
    rcases import_parts_gives ctx n.span ⟨none, none, none⟩ clause.namedChildren with
      ⟨parts, done, whole, named⟩ | ⟨reason, refused⟩
    · rw [done, Failure.ok_bind]
      cases made : Import.ofParts module n.span parts.default parts.whole parts.named with
      | ok node =>
          obtain ⟨single, sameModule, sameSpan, _, sameWhole, sameNamed⟩ := (Import.of_parts_iff _ _ _ _ _ node).mp made
          refine Or.inl (.result _ _ ⟨?_, sameModule, sameSpan⟩)
          rw [sameWhole, sameNamed]
          exact single
      | error fault =>
          obtain ⟨rfl, someWhole, someNamed⟩ := (Import.of_parts_error_iff _ _ _ _ _ fault).mp made
          -- Both parts are there at the end and neither was at the start.
          refine Or.inr ⟨rfl, clause, first, ?_, ?_⟩
          · rcases whole with same | found
            · simp [same] at someWhole
            · exact found
          · rcases named with same | found
            · simp [same] at someNamed
            · exact found
    · rw [refused]
      exact Or.inl (Or.inr ⟨reason, rfl⟩)

theorem whole_name_gives (ctx : Context) (span : Span) (wholeExport : Option Node) :
    Gives ctx span (wholeName ctx span wholeExport) fun _ => True := by
  unfold wholeName
  split
  · exact .result _ _ trivial
  · split
    · exact .result _ _ trivial
    · split
      · exact .refusal _ _
      · exact .result _ _ trivial

theorem reexport_node_gives (ctx : Context) (span : Span) (parts : ExportParts) (module : ModuleSpecifier) :
    Gives ctx span (reexportNode ctx span parts module) fun node =>
      (node.named?.isSome ↔ node.isWhole = false) ∧ (node.newName?.isSome → node.isWhole = true) ∧
        node.module = module ∧ node.span = span := by
  rw [reexportNode]
  split
  · apply Gives.bind _ _ _ _ (bindings_gives ctx .exporting span _)
    intro named _
    exact .result _ _ ⟨by simp [Reexport.named?, Reexport.isWhole], by simp [Reexport.newName?], rfl, rfl⟩
  · apply Gives.bind _ _ _ _ (whole_name_gives ctx span parts.wholeExport)
    intro newName _
    exact .result _ _ ⟨by simp [Reexport.named?, Reexport.isWhole], by simp [Reexport.isWhole], rfl, rfl⟩

theorem declarators_gives (ctx : Context) (span : Span) (keyword : VariableKeyword) (nodes : List Node) :
    Gives ctx span (declarators ctx span keyword nodes) fun items =>
      ∀ item ∈ items, item.1.newName = none ∧ item.2 = some keyword := by
  induction nodes with
  | nil => exact .result _ _ (by simp)
  | cons declarator rest ih =>
      rw [declarators]
      split
      · exact .refusal _ _
      · split
        · apply Gives.bind _ _ _ _ ih
          intro items named
          exact .result _ _ (List.forall_mem_cons.mpr ⟨⟨rfl, rfl⟩, named⟩)
        · exact .refusal _ _

theorem variable_items_gives (ctx : Context) (span : Span) (statement : Node) :
    Gives ctx span (variableItems ctx span statement) fun items =>
      ∃ keyword, ∀ item ∈ items, item.1.newName = none ∧ item.2 = some keyword := by
  rw [variableItems]
  split
  · exact .refusal _ _
  · rename_i keyword _
    rcases declarators_gives ctx span keyword
      (statement.namedChildren.filter (·.kind == "variable_declarator")) with ⟨items, done, named⟩ | refused
    · exact Or.inl ⟨items, done, keyword, named⟩
    · exact Or.inr refused

theorem declaration_node_gives (ctx : Context) (span : Span) (isDefault : Bool) (declared : Declared)
    (uniform : declared.Uniform) :
    Gives ctx span (declarationNode span isDefault declared.kind declared.parts) fun node =>
      ∀ made ∈ node, made.span = span ∧ made.Uniform := by
  have accepted : Declared.ofParts declared.kind declared.parts = .ok declared :=
    (Declared.of_parts_iff _ _ _).mpr ⟨rfl, rfl⟩
  rw [declarationNode, accepted]
  refine .result (some (Export.declaration span isDefault declared)) _ ?_
  rintro made ⟨⟩
  exact ⟨rfl, uniform⟩

theorem variable_items_declared (items : List (Declaration × Option VariableKeyword)) (keyword : VariableKeyword)
    (named : ∀ item ∈ items, item.1.newName = none ∧ item.2 = some keyword) :
    ∃ declared : Declared, declared.kind = .ofVariables ∧ declared.parts = items ∧ declared.Uniform := by
  have kept : ∀ item ∈ items, (item.1, some keyword) = item := by
    intro item member
    rw [← (named item member).2]
  have shown : (Declared.ofVariables (items.map fun item => (item.1, keyword))).parts = items := by
    rw [Declared.parts, List.map_map]
    exact (List.map_congr_left kept).trans (List.map_id items)
  refine ⟨.ofVariables (items.map fun item => (item.1, keyword)), rfl, shown, ?_, keyword, ?_⟩
  · rw [shown]
    exact fun item member => (named item member).1
  · rw [shown]
    exact fun item member => (named item member).2

theorem plain_declaration_gives (ctx : Context) (span : Span) (isDefault : Bool) (declaration : Node) :
    Gives ctx span (plainDeclaration ctx span isDefault declaration) fun node =>
      ∀ made ∈ node, made.span = span ∧ made.Uniform := by
  rw [plainDeclaration]
  split
  · apply Gives.bind _ _ _ _ (variable_items_gives ctx span declaration)
    rintro items ⟨keyword, named⟩
    obtain ⟨declared, kind, rfl, uniform⟩ := variable_items_declared items keyword named
    rw [← kind]
    exact declaration_node_gives ctx span isDefault declared uniform
  · split
    · exact .result _ _ (by simp)
    · rename_i kind _
      split
      · exact .refusal _ _
      · rename_i name _
        refine declaration_node_gives ctx span isDefault (.definitions kind [⟨name.text ctx.source, none⟩]) ⟨?_, ?_⟩
        · simp [Declared.parts]
        · exact ⟨_, rfl⟩

theorem exported_declaration_gives (ctx : Context) (span : Span) (isDefault : Bool) (declaration : Node) :
    Gives ctx span (exportedDeclaration ctx span isDefault declaration) fun node =>
      ∀ made ∈ node, made.span = span ∧ made.Uniform := by
  rw [exportedDeclaration]
  split
  · split
    · exact .result _ _ (by simp)
    · exact plain_declaration_gives ctx span isDefault _
  · exact plain_declaration_gives ctx span isDefault declaration

theorem local_export_gives (ctx : Context) (span : Span) (parts : ExportParts) :
    Gives ctx span (localExport ctx span parts) fun node => ∀ made ∈ node, made.span = span ∧ made.Uniform := by
  rw [localExport]
  split
  · exact .refusal _ _
  · split
    · apply Gives.bind _ _ _ _ (bindings_gives ctx .exporting span _)
      intro bindings _
      refine .result (some (Export.list span bindings)) _ ?_
      rintro made ⟨⟩
      exact ⟨rfl, trivial⟩
    · split
      · exact exported_declaration_gives ctx span parts.isDefault _
      · split
        · split
          · exact plain_declaration_gives ctx span parts.isDefault _
          · exact .result _ _ (by simp)
        · exact .result _ _ (by simp)

end Classification

end Linkage
