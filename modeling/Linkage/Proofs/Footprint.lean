import Linkage.Proofs.StatementRun
import Mathlib.Data.List.Forall2

set_option autoImplicit false

namespace Linkage

namespace Node

def IsComment (n : Node) : Prop := n.kind = "comment" ∧ n.named = true ∧ n.field = none ∧ n.children = []

structure SameLabel (n m : Node) : Prop where
  kind : n.kind = m.kind
  start : n.start = m.start
  stop : n.stop = m.stop
  named : n.named = m.named
  field : n.field = m.field
  hasError : n.hasError = m.hasError

theorem SameLabel.span {n m : Node} (same : SameLabel n m) : n.span = m.span := by
  rw [Node.span, same.start, same.stop, Node.span]

theorem SameLabel.text {n m : Node} (same : SameLabel n m) (source : Bytes) : n.text source = m.text source := by
  rw [n.text_span, same.span, ← Node.text_span]

-- Nodes related one by one, in order, with comments in between on the second side.
inductive Interspersed (R : Node → Node → Prop) : List Node → List Node → Prop where
  | nil : Interspersed R [] []
  | kept (n m : Node) (ns ms : List Node) (same : R n m) (rest : Interspersed R ns ms) :
      Interspersed R (n :: ns) (m :: ms)
  | comment (c : Node) (ns ms : List Node) (trivia : c.IsComment) (rest : Interspersed R ns ms) :
      Interspersed R ns (c :: ms)

namespace Interspersed

variable {R S : Node → Node → Prop} {ns ms : List Node}

theorem mono (weaker : ∀ n m, R n m → S n m) (related : Interspersed R ns ms) : Interspersed S ns ms := by
  induction related with
  | nil => exact .nil
  | kept n m ns ms same _ ih => exact .kept n m ns ms (weaker n m same) ih
  | comment c ns ms trivia _ ih => exact .comment c ns ms trivia ih

theorem of_forall (related : List.Forall₂ R ns ms) : Interspersed R ns ms := by
  induction related with
  | nil => exact .nil
  | cons same _ ih => exact .kept _ _ _ _ same ih

theorem forall_of_plain (related : Interspersed R ns ms) (plain : ∀ m ∈ ms, ¬ m.IsComment) :
    List.Forall₂ R ns ms := by
  induction related with
  | nil => exact .nil
  | kept n m ns ms same _ ih => exact .cons same (ih (List.forall_mem_cons.mp plain).2)
  | comment c ns ms trivia _ _ => exact absurd trivia (plain c (by simp))

theorem filter (p : Node → Bool) (agree : ∀ n m, R n m → p n = p m) (related : Interspersed R ns ms) :
    Interspersed R (ns.filter p) (ms.filter p) := by
  induction related with
  | nil => exact .nil
  | kept n m ns ms same _ ih =>
      by_cases hit : p n = true
      · rw [List.filter_cons_of_pos hit, List.filter_cons_of_pos ((agree n m same).symm.trans hit)]
        exact .kept _ _ _ _ same ih
      · have otherMiss : ¬ p m = true := by rwa [← agree n m same]
        rw [List.filter_cons_of_neg hit, List.filter_cons_of_neg otherMiss]
        exact ih
  | comment c ns ms trivia _ ih =>
      by_cases hit : p c = true
      · rw [List.filter_cons_of_pos hit]
        exact .comment _ _ _ trivia ih
      · rw [List.filter_cons_of_neg hit]
        exact ih

theorem select (p : Node → Bool) (agree : ∀ n m, R n m → p n = p m) (skips : ∀ c, c.IsComment → p c = false)
    (related : Interspersed R ns ms) : List.Forall₂ R (ns.filter p) (ms.filter p) := by
  apply (related.filter p agree).forall_of_plain
  intro m member trivia
  have met : p m = true := (List.mem_filter.mp member).2
  rw [skips m trivia] at met
  contradiction

theorem find (p : Node → Bool) (agree : ∀ n m, R n m → p n = p m) (skips : ∀ c, c.IsComment → p c = false)
    (related : Interspersed R ns ms) : Option.Rel R (ns.find? p) (ms.find? p) := by
  have selected := related.select p agree skips
  rw [← List.head?_filter, ← List.head?_filter]
  generalize ns.filter p = left at selected ⊢
  generalize ms.filter p = right at selected ⊢
  cases selected with
  | nil => exact .none
  | cons same _ => exact .some same

end Interspersed

structure SameAbove (R : Node → Node → Prop) (n m : Node) : Prop where
  label : SameLabel n m
  below : Interspersed R n.children m.children

def SameTwig : Node → Node → Prop := SameAbove SameLabel

def SameBranch : Node → Node → Prop := SameAbove SameTwig

theorem SameAbove.mono {R S : Node → Node → Prop} {n m : Node} (weaker : ∀ c d, R c d → S c d)
    (same : SameAbove R n m) : SameAbove S n m :=
  ⟨same.label, same.below.mono weaker⟩

theorem SameAbove.named_children {R : Node → Node → Prop} {n m : Node} (labels : ∀ c d, R c d → SameLabel c d)
    (same : SameAbove R n m) : Interspersed R n.namedChildren m.namedChildren :=
  same.below.filter _ fun c d related => (labels c d related).named

theorem SameAbove.child_of_kind {R : Node → Node → Prop} {n m : Node} (labels : ∀ c d, R c d → SameLabel c d)
    (same : SameAbove R n m) (kind : String) (code : kind ≠ "comment") :
    Option.Rel R (n.childOfKind? kind) (m.childOfKind? kind) := by
  apply same.below.find
  · intro c d related
    rw [(labels c d related).kind]
  · rintro c ⟨comment, _⟩
    rw [comment]
    exact beq_eq_false_iff_ne.mpr (Ne.symm code)

theorem SameAbove.child_in_field {R : Node → Node → Prop} {n m : Node} (labels : ∀ c d, R c d → SameLabel c d)
    (same : SameAbove R n m) (field : String) : Option.Rel R (n.childInField? field) (m.childInField? field) := by
  apply same.below.find
  · intro c d related
    rw [(labels c d related).field]
  · rintro c ⟨_, _, free, _⟩
    rw [free]
    rfl

end Node

namespace Literal

theorem piece_comment (source : Bytes) (c : Node) (trivia : c.IsComment) : piece source c = .ok [] := by
  simp [piece, trivia.1]

theorem pieces_same (source : Bytes) (ns ms : List Node) (same : Node.Interspersed Node.SameLabel ns ms) :
    pieces source ns = pieces source ms := by
  induction same with
  | nil => rfl
  | kept n m ns ms label _ ih =>
      have own : piece source n = piece source m := by rw [piece, piece, label.kind, label.text]
      rw [pieces, pieces, own, ih]
  | comment c ns ms trivia _ ih =>
      rw [pieces, piece_comment source c trivia, Failure.ok_bind, ih]
      cases pieces source ms <;> rfl

theorem value_same (source : Bytes) (n m : Node) (same : n.SameTwig m) : value n source = value m source :=
  pieces_same source _ _ (Node.SameAbove.named_children (fun _ _ label => label) same)

end Literal

namespace Classification

open Node

theorem binding_same (ctx : Context) (side : Side) (span : Span) (n m : Node) (same : n.SameTwig m) :
    binding ctx side span n = binding ctx side span m := by
  have names := SameAbove.child_in_field (fun _ _ label => label) same "name"
  have newNames := SameAbove.child_in_field (fun _ _ label => label) same "alias"
  rw [binding, binding]
  generalize n.childInField? "name" = name at names ⊢
  generalize m.childInField? "name" = otherName at names ⊢
  generalize n.childInField? "alias" = newName at newNames ⊢
  generalize m.childInField? "alias" = otherNewName at newNames ⊢
  cases names with
  | none => rfl
  | some label =>
      cases newNames with
      | none => simp only [label.kind, label.text, Option.any_none, Option.map_none]
      | some newLabel =>
          simp only [label.kind, label.text, newLabel.kind, newLabel.text, Option.any_some, Option.map_some]

theorem bindings_of_same (ctx : Context) (side : Side) (span : Span) (ns ms : List Node)
    (same : List.Forall₂ SameTwig ns ms) : bindingsOf ctx side span ns = bindingsOf ctx side span ms := by
  induction same with
  | nil => rfl
  | cons own _ ih => rw [bindingsOf, bindingsOf, binding_same ctx side span _ _ own, ih]

theorem bindings_same (ctx : Context) (side : Side) (span : Span) (n m : Node) (same : n.SameBranch m) :
    bindings ctx side span n = bindings ctx side span m := by
  apply bindings_of_same
  apply (SameAbove.named_children (fun _ _ twig => twig.label) same).select
  · intro c d twig
    rw [twig.label.kind]
  · rintro c ⟨comment, _⟩
    rw [comment]
    cases side <;> rfl

theorem module_of_same (ctx : Context) (n m : Node) (same : n.SameTwig m) : moduleOf ctx n = moduleOf ctx m := by
  rw [moduleOf, moduleOf, Literal.value_same ctx.source n m same]

-- A part of an import clause; only lists of names are read two levels deep.
structure SamePart (n m : Node) : Prop where
  twig : SameTwig n m
  listed : n.kind = "named_imports" → SameBranch n m

theorem import_part_same (ctx : Context) (span : Span) (parts : ImportParts) (n m : Node) (same : SamePart n m) :
    importPart ctx span parts n = importPart ctx span parts m := by
  have names := SameAbove.child_of_kind (fun _ _ label => label) same.twig "identifier" (by decide)
  rw [importPart, importPart, same.twig.label.kind, same.twig.label.text]
  split
  · rfl
  · split
    · generalize n.childOfKind? "identifier" = name at names ⊢
      generalize m.childOfKind? "identifier" = otherName at names ⊢
      cases names with
      | none => rfl
      | some label => simp only [label.text]
    · split
      · rename_i kind
        rw [bindings_same ctx .importing span n m (same.listed (same.twig.label.kind.trans (eq_of_beq kind)))]
      · rfl

theorem import_part_comment (ctx : Context) (span : Span) (parts : ImportParts) (c : Node) (trivia : c.IsComment) :
    importPart ctx span parts c = .ok parts := by
  simp [importPart, trivia.1]

theorem import_parts_same (ctx : Context) (span : Span) (parts : ImportParts) (ns ms : List Node)
    (same : Interspersed SamePart ns ms) : importParts ctx span parts ns = importParts ctx span parts ms := by
  induction same generalizing parts with
  | nil => rfl
  | kept n m ns ms own _ ih =>
      rw [importParts, importParts, import_part_same ctx span parts n m own]
      congr 1
      funext next
      exact ih next
  | comment c ns ms trivia _ ih =>
      rw [importParts, import_part_comment ctx span parts c trivia, Failure.ok_bind]
      exact ih parts

theorem import_node_same (ctx : Context) (n m : Node) (module : ModuleSpecifier) (label : SameLabel n m)
    (clauses : Option.Rel (SameAbove SamePart) (n.childOfKind? "import_clause") (m.childOfKind? "import_clause")) :
    importNode ctx n module = importNode ctx m module := by
  rw [importNode, importNode, label.span]
  generalize n.childOfKind? "import_clause" = clause at clauses ⊢
  generalize m.childOfKind? "import_clause" = otherClause at clauses ⊢
  cases clauses with
  | none => rfl
  | some same =>
      have read := import_parts_same ctx m.span ⟨none, none, none⟩ _ _
        (same.named_children fun _ _ part => part.twig.label)
      simp only [read]

theorem declarators_same (ctx : Context) (span : Span) (keyword : VariableKeyword) (ns ms : List Node)
    (same : List.Forall₂ SameTwig ns ms) : declarators ctx span keyword ns = declarators ctx span keyword ms := by
  induction same with
  | nil => rfl
  | cons own _ ih =>
      have names := SameAbove.child_in_field (fun _ _ label => label) own "name"
      rw [declarators, declarators, ih]
      revert names
      generalize Node.childInField? _ "name" = name
      generalize Node.childInField? _ "name" = otherName
      intro names
      cases names with
      | none => rfl
      | some label => simp only [label.kind, label.text]

def opening (n : Node) : Option String := n.children.head?.map Node.kind

theorem opening_same (n m : Node) (first : Option.Rel SameLabel n.children.head? m.children.head?) :
    opening n = opening m := by
  rw [opening, opening]
  generalize n.children.head? = child at first ⊢
  generalize m.children.head? = otherChild at first ⊢
  cases first with
  | none => rfl
  | some label => rw [Option.map_some, Option.map_some, label.kind]

theorem variable_items_opening (ctx : Context) (span : Span) (n : Node) :
    variableItems ctx span n = match VariableKeyword.ofLabel? ((opening n).getD "") with
      | none => unsupported ctx (.variableKeyword ((opening n).getD "")) span
      | some keyword => declarators ctx span keyword (n.namedChildren.filter (·.kind == "variable_declarator")) := by
  rw [variableItems, opening]
  cases n.children <;> rfl

theorem variable_items_same (ctx : Context) (span : Span) (n m : Node) (same : n.SameBranch m)
    (opened : opening n = opening m) : variableItems ctx span n = variableItems ctx span m := by
  have listed : List.Forall₂ SameTwig (n.namedChildren.filter (·.kind == "variable_declarator"))
      (m.namedChildren.filter (·.kind == "variable_declarator")) := by
    apply (SameAbove.named_children (fun _ _ twig => twig.label) same).select
    · intro c d twig
      rw [twig.label.kind]
    · rintro c ⟨comment, _⟩
      rw [comment]
      rfl
  rw [variable_items_opening, variable_items_opening, opened]
  split
  · rfl
  · exact declarators_same ctx span _ _ _ listed

-- A declaration that is not ambient; only variable statements are read two levels deep.
structure SamePlain (n m : Node) : Prop where
  twig : SameTwig n m
  listed : isVariableStatement n.kind = true → SameBranch n m ∧ opening n = opening m

theorem plain_declaration_same (ctx : Context) (span : Span) (isDefault : Bool) (n m : Node) (same : SamePlain n m) :
    plainDeclaration ctx span isDefault n = plainDeclaration ctx span isDefault m := by
  have names := SameAbove.child_in_field (fun _ _ label => label) same.twig "name"
  rw [plainDeclaration, plainDeclaration, same.twig.label.kind]
  split
  · rename_i declares
    obtain ⟨branch, opened⟩ := same.listed (same.twig.label.kind ▸ declares)
    rw [variable_items_same ctx span n m branch opened]
  · split
    · rfl
    · generalize n.childInField? "name" = name at names ⊢
      generalize m.childInField? "name" = otherName at names ⊢
      cases names with
      | none => rfl
      | some label => simp only [label.text]

structure SameDeclaration (n m : Node) : Prop where
  kind : n.kind = m.kind
  ambient : n.kind = "ambient_declaration" → Option.Rel SamePlain (ambientBody? n) (ambientBody? m)
  plain : n.kind ≠ "ambient_declaration" → SamePlain n m

theorem exported_declaration_same (ctx : Context) (span : Span) (isDefault : Bool) (n m : Node)
    (same : SameDeclaration n m) :
    exportedDeclaration ctx span isDefault n = exportedDeclaration ctx span isDefault m := by
  rw [exportedDeclaration, exportedDeclaration, ← same.kind]
  split
  · rename_i kind
    have bodies := same.ambient (eq_of_beq kind)
    generalize ambientBody? n = body at bodies ⊢
    generalize ambientBody? m = otherBody at bodies ⊢
    cases bodies with
    | none => rfl
    | some plain => exact plain_declaration_same ctx span isDefault _ _ plain
  · rename_i kind
    exact plain_declaration_same ctx span isDefault n m (same.plain fun ambient => kind (by simp [ambient]))

theorem whole_name_same (ctx : Context) (span : Span) (n m : Option Node) (same : Option.Rel SameTwig n m) :
    wholeName ctx span n = wholeName ctx span m := by
  cases same with
  | none => rfl
  | some twig =>
      have names := (SameAbove.named_children (fun _ _ label => label) twig).find (·.kind != "comment")
        (fun c d label => by rw [label.kind]) (fun c trivia => by simp [trivia.1])
      simp only [wholeName]
      revert names
      generalize List.find? _ _ = name
      generalize List.find? _ _ = otherName
      intro names
      cases names with
      | none => rfl
      | some label => simp only [label.kind, label.text]

-- What is read of an export statement once it is clear what it is. A value is looked into only if
-- it is the definition of a default export.
structure SameContent (p q : ExportParts) : Prop where
  source : Option.Rel SameTwig p.source q.source
  clause : Option.Rel SameBranch p.clause q.clause
  wholeExport : Option.Rel SameTwig p.wholeExport q.wholeExport
  declaration : Option.Rel SameDeclaration p.declaration q.declaration
  value : Option.Rel (fun v w => SameLabel v w ∧
    (p.isDefault = true → (definitionKind? v.kind).isSome = true → SameTwig v w)) p.value q.value

structure SameShape (p q : ExportParts) : Prop where
  source : p.source.isSome = q.source.isSome
  clause : p.clause.isSome = q.clause.isSome
  wholeExport : p.wholeExport.isSome = q.wholeExport.isSome
  star : p.star.isSome = q.star.isSome
  declaration : p.declaration.isSome = q.declaration.isSome
  value : p.value.isSome = q.value.isSome
  isDefault : p.isDefault = q.isDefault

theorem SameShape.marker {p q : ExportParts} (same : SameShape p q) : p.marker.isSome = q.marker.isSome := by
  rw [ExportParts.marker, ExportParts.marker, Option.isSome_or, Option.isSome_or, same.wholeExport, same.star]

theorem SameShape.ambiguous {p q : ExportParts} (same : SameShape p q) : p.isAmbiguous = q.isAmbiguous := by
  simp only [ExportParts.isAmbiguous, ← List.countP_eq_length_filter, List.countP_cons, List.countP_nil, same.source,
    same.clause, same.marker, same.declaration, same.value]

theorem definition_not_variable (kind : String) (declares : isVariableStatement kind = true) :
    definitionKind? kind = none := by
  rcases Bool.or_eq_true_iff.mp declares with lexical | functionScoped
  · rw [eq_of_beq lexical]
    rfl
  · rw [eq_of_beq functionScoped]
    rfl

theorem SamePlain.of_definition {n m : Node} (twig : SameTwig n m) (definition : (definitionKind? n.kind).isSome = true) :
    SamePlain n m := by
  refine ⟨twig, ?_⟩
  intro declares
  rw [definition_not_variable n.kind declares] at definition
  contradiction

theorem reexport_node_same (ctx : Context) (span : Span) (p q : ExportParts) (module : ModuleSpecifier)
    (same : SameContent p q) : reexportNode ctx span p module = reexportNode ctx span q module := by
  have clauses := same.clause
  rw [reexportNode, reexportNode, whole_name_same ctx span _ _ same.wholeExport]
  generalize p.clause = clause at clauses ⊢
  generalize q.clause = otherClause at clauses ⊢
  cases clauses with
  | none => rfl
  | some branch => simp only [bindings_same ctx .exporting span _ _ branch]

theorem local_export_same (ctx : Context) (span : Span) (p q : ExportParts) (shape : SameShape p q)
    (same : SameContent p q) : localExport ctx span p = localExport ctx span q := by
  obtain ⟨_, clauses, _, declarations, values⟩ := same
  rw [localExport, localExport, shape.marker, ← shape.isDefault]
  split
  · rfl
  · generalize p.clause = clause at clauses ⊢
    generalize q.clause = otherClause at clauses ⊢
    cases clauses with
    | some branch => simp only [bindings_same ctx .exporting span _ _ branch]
    | none =>
        generalize p.declaration = declaration at declarations ⊢
        generalize q.declaration = otherDeclaration at declarations ⊢
        cases declarations with
        | some same => exact exported_declaration_same ctx span p.isDefault _ _ same
        | none =>
            generalize p.value = value at values ⊢
            generalize q.value = otherValue at values ⊢
            cases values with
            | none => rfl
            | some read =>
                obtain ⟨label, below⟩ := read
                simp only [← label.kind]
                split
                · rename_i definition
                  obtain ⟨isDefault, defines⟩ := Bool.and_eq_true_iff.mp definition
                  exact plain_declaration_same ctx span p.isDefault _ _
                    (.of_definition (below isDefault defines) defines)
                · rfl

theorem same_shape (n m : Node) (twig : SameTwig n m) :
    SameShape (ExportParts.ofStatement n) (ExportParts.ofStatement m) := by
  have present : ∀ x y : Option Node, Option.Rel SameLabel x y → x.isSome = y.isSome := by
    intro x y related
    cases related <;> rfl
  have ofKind := fun kind code =>
    present _ _ (SameAbove.child_of_kind (fun _ _ label => label) twig kind code)
  have inField := fun field => present _ _ (SameAbove.child_in_field (fun _ _ label => label) twig field)
  exact ⟨inField "source", ofKind "export_clause" (by decide), ofKind "namespace_export" (by decide),
    ofKind "*" (by decide), inField "declaration", inField "value", ofKind "default" (by decide)⟩

theorem import_statement_same (ctx : Context) (n m : Node) (twig : SameTwig n m)
    (sources : Option.Rel SameTwig (n.childInField? "source") (m.childInField? "source"))
    (clauses : Option.Rel (SameAbove SamePart) (n.childOfKind? "import_clause") (m.childOfKind? "import_clause")) :
    importStatement ctx n = importStatement ctx m := by
  have required := SameAbove.child_of_kind (fun _ _ label => label) twig "import_require_clause" (by decide)
  have made := fun module => import_node_same ctx n m module twig.label clauses
  rw [importStatement, importStatement]
  generalize n.childOfKind? "import_require_clause" = clause at required ⊢
  generalize m.childOfKind? "import_require_clause" = otherClause at required ⊢
  cases required with
  | some label => rfl
  | none =>
      generalize n.childInField? "source" = source at sources ⊢
      generalize m.childInField? "source" = otherSource at sources ⊢
      cases sources with
      | none => simp only [twig.label.span]
      | some literal => simp only [module_of_same ctx _ _ literal, made]

theorem export_statement_same (ctx : Context) (n m : Node) (twig : SameTwig n m)
    (content : (ExportParts.ofStatement n).isAmbiguous = false →
      SameContent (ExportParts.ofStatement n) (ExportParts.ofStatement m)) :
    exportStatement ctx n = exportStatement ctx m := by
  have shape := same_shape n m twig
  rw [exportStatement, exportStatement, ← shape.ambiguous, twig.label.span]
  cases clear : (ExportParts.ofStatement n).isAmbiguous with
  | true => rfl
  | false =>
      have same := content clear
      have sources := same.source
      have made := fun module => reexport_node_same ctx m.span _ _ module same
      have locally := local_export_same ctx m.span _ _ shape same
      simp only [Bool.false_eq_true, if_false, made, locally]
      generalize (ExportParts.ofStatement n).source = source at sources ⊢
      generalize (ExportParts.ofStatement m).source = otherSource at sources ⊢
      cases sources with
      | none => rfl
      | some literal => simp only [module_of_same ctx _ _ literal]

inductive SameStatement (n m : Node) : Prop where
  | aside (passed : n.kind ∉ statementKinds) (same : n.kind = m.kind)
  | broken (kind : n.kind = errorKind) (label : SameLabel n m) (mentions : n.mentionsModule = m.mentionsModule)
  | importing (kind : n.kind = "import_statement") (twig : SameTwig n m)
      (source : Option.Rel SameTwig (n.childInField? "source") (m.childInField? "source"))
      (clause : Option.Rel (SameAbove SamePart) (n.childOfKind? "import_clause") (m.childOfKind? "import_clause"))
  | exporting (kind : n.kind = "export_statement") (twig : SameTwig n m)
      (content : (ExportParts.ofStatement n).isAmbiguous = false →
        SameContent (ExportParts.ofStatement n) (ExportParts.ofStatement m))

theorem statement_same (ctx : Context) (n m : Node) (same : SameStatement n m) : statement ctx n = statement ctx m := by
  cases same with
  | aside passed same => rw [statement_aside ctx n passed, statement_aside ctx m (same ▸ passed)]
  | broken kind label mentions =>
      rw [statement_broken ctx n kind, statement_broken ctx m (label.kind ▸ kind), mentions, label.span]
  | importing kind twig source clause =>
      rw [statement_import ctx n kind, statement_import ctx m (twig.label.kind ▸ kind), twig.label.hasError,
        twig.label.span, import_statement_same ctx n m twig source clause]
  | exporting kind twig content =>
      rw [statement_export ctx n kind, statement_export ctx m (twig.label.kind ▸ kind), twig.label.hasError,
        twig.label.span, export_statement_same ctx n m twig content]

theorem statement_comment (ctx : Context) (c : Node) (trivia : c.IsComment) : statement ctx c = .pure none := by
  apply statement_aside
  rw [trivia.1]
  decide

theorem statements_same (ctx : Context) (ns ms : List Node) (same : Interspersed SameStatement ns ms) :
    statements ctx ns = statements ctx ms := by
  induction same with
  | nil => rfl
  | kept n m ns ms own _ ih => rw [statements_cons, statements_cons, statement_same ctx n m own, ih]
  | comment c ns ms trivia _ ih =>
      rw [statements_cons, statement_comment ctx c trivia, Traced.pure_bind, ih]
      exact (Traced.bind_pure _).symm

end Classification

end Linkage
