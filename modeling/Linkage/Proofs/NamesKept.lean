import Linkage.Proofs.ExportDecision
import Linkage.Proofs.NameReading
import Linkage.Proofs.StatementYield

set_option autoImplicit false

namespace Linkage

namespace Classification

def importLists (n : Node) : List Node :=
  (n.childOfKind? "import_clause").elim [] fun clause => clause.namedChildren.filter isNamedList

inductive ReadsClause (n : Node) : Side → Node → Prop where
  | imports (list : Node) (kind : n.kind = "import_statement") (plain : n.childOfKind? "import_require_clause" = none)
      (listed : list ∈ importLists n) : ReadsClause n .importing list
  | exports (clause : Node) (kind : n.kind = "export_statement") (found : n.childOfKind? "export_clause" = some clause) :
      ReadsClause n .exporting clause

structure ReadsVariables (n body : Node) : Prop where
  kind : n.kind = "export_statement"
  found : (ExportParts.ofStatement n).body? = some body
  declares : isVariableStatement body.kind = true

section Statements

variable (ctx : Context) (n : Node)

theorem import_node_named (module : ModuleSpecifier) (node : Import) (made : importNode ctx n module = .ok node) :
    (∀ list ∈ importLists n, ∃ bound, bindings ctx .importing n.span list = .ok bound) ∧
      (importLists n = [] ∧ node.named? = none ∨
        ∃ front list bound, importLists n = front ++ [list] ∧
          bindings ctx .importing n.span list = .ok bound ∧ node.named? = some bound) := by
  rw [importNode] at made
  rw [importLists]
  cases found : n.childOfKind? "import_clause" with
  | none =>
      rw [found] at made
      cases made
      exact ⟨by simp, Or.inl ⟨rfl, rfl⟩⟩
  | some clause =>
      rw [found] at made
      obtain ⟨parts, read, rest⟩ := Failure.bind_ok _ _ _ made
      cases accepted : Import.ofParts module n.span parts.default parts.whole parts.named with
      | error fault =>
          rw [accepted] at rest
          cases rest
      | ok own =>
          rw [accepted] at rest
          cases rest
          obtain ⟨_, _, _, _, _, shown⟩ := (Import.of_parts_iff _ _ _ _ _ _).mp accepted
          rw [shown]
          exact import_parts_named ctx n.span ⟨none, none, none⟩ parts clause.namedChildren read

theorem import_reads_all (item : Option Item) (kind : n.kind = "import_statement")
    (plain : n.childOfKind? "import_require_clause" = none) (done : (statement ctx n).outcome = .ok item) :
    ∃ module node, importNode ctx n module = .ok node := by
  rw [statement_import ctx n kind] at done
  cases sound : n.hasError with
  | true =>
      rw [sound, if_pos rfl] at done
      cases done
  | false =>
      simp only [sound, Bool.false_eq_true, if_false, importStatement, plain] at done
      cases source : n.childInField? "source" with
      | none =>
          rw [source] at done
          cases done
      | some literal =>
          rw [source] at done
          obtain ⟨module, _, rest⟩ := Traced.bind_outcome_ok _ _ _ done
          obtain ⟨node, made, _⟩ := Traced.bind_outcome_ok _ _ _ rest
          exact ⟨module, node, made⟩

theorem export_reads_all (item : Option Item) (kind : n.kind = "export_statement")
    (done : (statement ctx n).outcome = .ok item) :
    ¬ (ExportParts.ofStatement n).Clash ∧
      ((∃ module node, (ExportParts.ofStatement n).source.isSome = true ∧
          reexportNode ctx n.span (ExportParts.ofStatement n) module = .ok node) ∨
        ∃ node, localExport ctx n.span (ExportParts.ofStatement n) = .ok node) := by
  cases sound : n.hasError with
  | true =>
      rw [statement_export ctx n kind, sound, if_pos rfl] at done
      cases done
  | false =>
      have clear : ¬ (ExportParts.ofStatement n).Clash := by
        intro clash
        rw [export_clashing ctx n kind sound clash] at done
        cases done
      refine ⟨clear, ?_⟩
      cases source : (ExportParts.ofStatement n).source with
      | some literal =>
          rw [export_forwarding ctx n kind sound literal clear source] at done
          obtain ⟨module, _, rest⟩ := Traced.bind_outcome_ok _ _ _ done
          cases made : reexportNode ctx n.span (ExportParts.ofStatement n) module with
          | error failure =>
              rw [made] at rest
              cases rest
          | ok node => exact Or.inl ⟨module, node, rfl, made⟩
      | none =>
          rw [export_local ctx n kind sound clear source] at done
          cases made : localExport ctx n.span (ExportParts.ofStatement n) with
          | error failure =>
              rw [made] at done
              cases done
          | ok node => exact Or.inr ⟨node, rfl⟩

end Statements

section Exports

variable (ctx : Context) (span : Span) (parts : ExportParts)

theorem reexport_node_listed (module : ModuleSpecifier) (node : Reexport) (clause : Node)
    (listed : parts.clause = some clause) (made : reexportNode ctx span parts module = .ok node) :
    ∃ bound, bindings ctx .exporting span clause = .ok bound ∧ node.named? = some bound := by
  simp only [reexportNode, listed] at made
  obtain ⟨bound, read, rest⟩ := Failure.bind_ok _ _ _ made
  cases rest
  exact ⟨bound, read, rfl⟩

theorem local_export_list (node : Option Export) (clause : Node) (listed : parts.clause = some clause)
    (made : localExport ctx span parts = .ok node) :
    ∃ bound, bindings ctx .exporting span clause = .ok bound ∧ node = some (.list span bound) := by
  rw [localExport] at made
  split at made
  · cases made
  · rw [listed] at made
    obtain ⟨bound, read, rest⟩ := Failure.bind_ok _ _ _ made
    cases rest
    exact ⟨bound, read, rfl⟩

theorem local_export_of_list (place : Span) (bound : List Binding)
    (made : localExport ctx span parts = .ok (some (.list place bound))) :
    ∃ clause, parts.clause = some clause ∧ bindings ctx .exporting span clause = .ok bound := by
  cases listed : parts.clause with
  | some clause =>
      obtain ⟨own, read, form⟩ := local_export_list ctx span parts _ clause listed made
      cases form
      exact ⟨clause, rfl, read⟩
  | none =>
      -- Without a clause there is a marker, which is refused, or at most a declaration.
      cases marked : parts.marker with
      | some marker => cases (local_export_marked ctx span parts (by rw [marked]; rfl)).symm.trans made
      | none =>
          have shows := (local_export_shows ctx span parts marked listed).holds _ _ _ made
          cases declares : parts.body?.bind declarationKind? with
          | none =>
              rw [declares] at shows
              cases shows
          | some kind =>
              rw [declares] at shows
              obtain ⟨_, form, _⟩ := shows
              cases form

theorem clause_unmarked (clause : Node) (clear : ¬ parts.Clash) (listed : parts.clause = some clause) :
    parts.marker = none := by
  cases marked : parts.marker with
  | none => rfl
  | some marker =>
      refine absurd (Or.inl ?_) clear
      simp only [ExportParts.shapes, List.countP_cons, listed, marked, Option.isSome_some, if_true]
      omega

theorem body_alone (body : Node) (clear : ¬ parts.Clash) (found : parts.body? = some body) :
    parts.marker = none ∧ parts.clause = none ∧ parts.source = none := by
  have own : parts.declaration.isSome = true ∨ parts.value.isSome = true := by
    rw [ExportParts.body?] at found
    cases declared : parts.declaration with
    | some declaration => exact Or.inl rfl
    | none =>
        rw [declared] at found
        exact Or.inr (Option.isSome_of_isSome_filter _ _ (Option.isSome_of_mem found))
  obtain ⟨few, unforwarded⟩ := not_or.mp clear
  simp only [ExportParts.shapes, List.countP_cons, List.countP_nil] at few
  simp only [← Option.not_isSome_iff_eq_none]
  refine ⟨?_, ?_, fun source => unforwarded ⟨source, own⟩⟩
  · intro marked
    rcases own with declared | valued
    · simp only [marked, declared, if_true] at few
      omega
    · simp only [marked, valued, if_true] at few
      omega
  · intro listed
    rcases own with declared | valued
    · simp only [listed, declared, if_true] at few
      omega
    · simp only [listed, valued, if_true] at few
      omega

theorem plain_declaration_variables (isDefault : Bool) (body : Node) (node : Option Export)
    (several : isVariableStatement body.kind = true) (made : plainDeclaration ctx span isDefault body = .ok node) :
    ∃ declared : Declared, variableItems ctx span body = .ok declared.parts ∧
      node = some (.declaration span isDefault declared) := by
  rw [plainDeclaration, if_pos several] at made
  obtain ⟨items, read, rest⟩ := Failure.bind_ok _ _ _ made
  obtain ⟨keyword, named⟩ := (variable_items_gives ctx span body).holds _ _ items read
  obtain ⟨declared, kind, rfl, _⟩ := variable_items_declared items keyword named
  rw [← kind, declaration_node_ok] at rest
  cases rest
  exact ⟨declared, read, rfl⟩

theorem local_export_variables (body : Node) (node : Option Export) (clear : ¬ parts.Clash)
    (found : parts.body? = some body) (several : isVariableStatement body.kind = true)
    (made : localExport ctx span parts = .ok node) :
    ∃ declared : Declared, variableItems ctx span body = .ok declared.parts ∧
      node = some (.declaration span parts.isDefault declared) := by
  obtain ⟨unmarked, unlisted, _⟩ := body_alone parts body clear found
  rw [local_export_body ctx span parts unmarked unlisted, found] at made
  exact plain_declaration_variables ctx span parts.isDefault body node several made

end Exports

section Statements

variable (ctx : Context) (n : Node)

theorem clause_refused (side : Side) (clause : Node) (failure : Failure) (reads : ReadsClause n side clause)
    (failed : bindings ctx side n.span clause = .error failure) : ∃ fault, (statement ctx n).outcome = .error fault := by
  cases outcome : (statement ctx n).outcome with
  | error fault => exact ⟨fault, rfl⟩
  | ok item =>
      exfalso
      cases reads with
      | imports _ kind plain listed =>
          obtain ⟨module, node, made⟩ := import_reads_all ctx n item kind plain outcome
          obtain ⟨bound, read⟩ := (import_node_named ctx n module node made).1 clause listed
          cases failed.symm.trans read
      | exports _ kind found =>
          obtain ⟨_, ⟨module, node, _, made⟩ | ⟨node, made⟩⟩ := export_reads_all ctx n item kind outcome
          · obtain ⟨bound, read, _⟩ := reexport_node_listed ctx n.span _ module node clause found made
            cases failed.symm.trans read
          · obtain ⟨bound, read, _⟩ := local_export_list ctx n.span _ node clause found made
            cases failed.symm.trans read

theorem variables_refused (body : Node) (failure : Failure) (reads : ReadsVariables n body)
    (failed : variableItems ctx n.span body = .error failure) : ∃ fault, (statement ctx n).outcome = .error fault := by
  cases outcome : (statement ctx n).outcome with
  | error fault => exact ⟨fault, rfl⟩
  | ok item =>
      exfalso
      obtain ⟨clear, ⟨module, node, source, _⟩ | ⟨node, made⟩⟩ := export_reads_all ctx n item reads.kind outcome
      · obtain ⟨_, _, sourceless⟩ := body_alone _ body clear reads.found
        simp [sourceless] at source
      · obtain ⟨declared, read, _⟩ := local_export_variables ctx n.span _ body node clear reads.found reads.declares made
        cases failed.symm.trans read

-- A statement that comes to read a clause: nothing that is looked at before it is refused.
inductive ComesTo : Side → Node → Prop where
  | imports (literal clause list : Node) (module : ModuleSpecifier) (before after : List Node) (parts : ImportParts)
      (kind : n.kind = "import_statement") (sound : n.hasError = false)
      (plain : n.childOfKind? "import_require_clause" = none) (source : n.childInField? "source" = some literal)
      (resolved : (moduleOf ctx literal).outcome = .ok module) (found : n.childOfKind? "import_clause" = some clause)
      (split : clause.namedChildren = before ++ list :: after) (isList : isNamedList list = true)
      (earlier : importParts ctx n.span ⟨none, none, none⟩ before = .ok parts) : ComesTo .importing list
  | forwards (literal clause : Node) (module : ModuleSpecifier) (kind : n.kind = "export_statement")
      (sound : n.hasError = false) (clear : ¬ (ExportParts.ofStatement n).Clash)
      (source : (ExportParts.ofStatement n).source = some literal) (resolved : (moduleOf ctx literal).outcome = .ok module)
      (found : n.childOfKind? "export_clause" = some clause) : ComesTo .exporting clause
  | lists (clause : Node) (kind : n.kind = "export_statement") (sound : n.hasError = false)
      (clear : ¬ (ExportParts.ofStatement n).Clash) (source : (ExportParts.ofStatement n).source = none)
      (found : n.childOfKind? "export_clause" = some clause) : ComesTo .exporting clause

theorem import_parts_broken (span : Span) (start parts : ImportParts) (before after : List Node) (list : Node)
    (failure : Failure) (isList : isNamedList list = true) (earlier : importParts ctx span start before = .ok parts)
    (failed : bindings ctx .importing span list = .error failure) :
    importParts ctx span start (before ++ list :: after) = .error failure := by
  induction before generalizing start with
  | nil =>
      have kind : list.kind = "named_imports" := eq_of_beq isList
      have other : ("named_imports" == "identifier") = false ∧ ("named_imports" == "namespace_import") = false := by decide
      simp only [List.nil_append, importParts, importPart, kind, other, beq_self_eq_true, Bool.false_eq_true, if_true,
        if_false, failed, Failure.error_bind]
  | cons first before ih =>
      obtain ⟨next, read, rest⟩ := Failure.bind_ok _ _ _ earlier
      rw [List.cons_append, importParts, read, Failure.ok_bind]
      exact ih next rest

theorem clause_failure (side : Side) (clause : Node) (failure : Failure) (comes : ComesTo ctx n side clause)
    (failed : bindings ctx side n.span clause = .error failure) : (statement ctx n).outcome = .error failure := by
  cases comes with
  | imports literal clause _ module before after parts kind sound plain source resolved found split isList earlier =>
      have broken : importNode ctx n module = .error failure := by
        simp only [importNode, found, split,
          import_parts_broken ctx n.span _ parts before after _ failure isList earlier failed, Failure.error_bind]
      have whole : statement ctx n = (moduleOf ctx literal).bind fun module =>
          (Traced.ofExcept (importNode ctx n module)).bind fun node => .pure (some (.importing node)) := by
        simp only [statement_import ctx n kind, sound, Bool.false_eq_true, if_false, importStatement, plain, source]
        rfl
      rw [whole, Traced.bind_ok _ _ module resolved, broken]
      rfl
  | forwards literal _ module kind sound clear source resolved found =>
      have listed : (ExportParts.ofStatement n).clause = some clause := found
      rw [export_forwarding ctx n kind sound literal clear source, Traced.bind_ok _ _ module resolved]
      simp only [reexportNode, listed, failed, Failure.error_bind]
      rfl
  | lists _ kind sound clear source found =>
      have listed : (ExportParts.ofStatement n).clause = some clause := found
      have unmarked := clause_unmarked _ clause clear listed
      rw [export_local ctx n kind sound clear source]
      simp only [localExport, unmarked, Option.isSome_none, Bool.false_eq_true, if_false, listed, failed,
        Failure.error_bind]
      rfl

theorem variables_failure (body : Node) (failure : Failure) (reads : ReadsVariables n body) (sound : n.hasError = false)
    (clear : ¬ (ExportParts.ofStatement n).Clash) (failed : variableItems ctx n.span body = .error failure) :
    (statement ctx n).outcome = .error failure := by
  obtain ⟨unmarked, unlisted, source⟩ := body_alone _ body clear reads.found
  rw [export_local ctx n reads.kind sound clear source, local_export_body ctx n.span _ unmarked unlisted, reads.found]
  simp only [Option.elim_some, plainDeclaration, reads.declares, if_true, failed, Failure.error_bind]
  rfl

-- The names that a node shows are those of the clause or variable statement it was read from.
def KeepsNames : Item → Prop
  | .importing node =>
    importLists n = [] ∧ node.named? = none ∨
      ∃ front list bound, importLists n = front ++ [list] ∧ node.named? = some bound ∧
        List.Forall₂ (Spells ctx.source) (entriesOf .importing list) bound
  | .reexporting node =>
    ∀ bound, node.named? = some bound → ∃ clause, n.childOfKind? "export_clause" = some clause ∧
      List.Forall₂ (Spells ctx.source) (entriesOf .exporting clause) bound
  | .exporting (.list _ bound) =>
    ∃ clause, n.childOfKind? "export_clause" = some clause ∧
      List.Forall₂ (Spells ctx.source) (entriesOf .exporting clause) bound
  | .exporting (.declaration _ _ declared) =>
    declared.kind = .ofVariables → ∃ body keyword, ReadsVariables n body ∧ opening body = some keyword.label ∧
      List.Forall₂ (Declares keyword ctx.source) (declaratorsOf body) declared.parts

theorem import_keeps_names (module : ModuleSpecifier) (node : Import) (made : importNode ctx n module = .ok node) :
    KeepsNames ctx n (.importing node) := by
  obtain ⟨_, absent | ⟨front, list, bound, split, read, named⟩⟩ := import_node_named ctx n module node made
  · exact Or.inl absent
  · exact Or.inr ⟨front, list, bound, split, named, bindings_spelled ctx .importing n.span list bound read⟩

theorem reexport_keeps_names (module : ModuleSpecifier) (node : Reexport)
    (made : reexportNode ctx n.span (ExportParts.ofStatement n) module = .ok node) :
    KeepsNames ctx n (.reexporting node) := by
  intro bound named
  obtain ⟨_, _, same, _⟩ := (reexport_node_forwards ctx n.span _ module).holds _ _ node made
  rw [named, Option.isSome_some] at same
  obtain ⟨clause, listed⟩ := Option.isSome_iff_exists.mp same.symm
  obtain ⟨own, read, shown⟩ := reexport_node_listed ctx n.span _ module node clause listed made
  cases named.symm.trans shown
  exact ⟨clause, listed, bindings_spelled ctx .exporting n.span clause bound read⟩

theorem declaration_keeps_names (span : Span) (isDefault : Bool) (declared : Declared) (kind : n.kind = "export_statement")
    (sound : n.hasError = false) (clear : ¬ (ExportParts.ofStatement n).Clash)
    (source : (ExportParts.ofStatement n).source = none)
    (done : (statement ctx n).outcome = .ok (some (.exporting (.declaration span isDefault declared))))
    (made : localExport ctx n.span (ExportParts.ofStatement n) = .ok (some (.declaration span isDefault declared))) :
    KeepsNames ctx n (.exporting (.declaration span isDefault declared)) := by
  intro several
  obtain ⟨_, _, _, _, declares⟩ := export_declared ctx n kind sound clear source span isDefault declared done
  obtain ⟨body, found, own⟩ := Option.bind_eq_some_iff.mp declares
  have isVariables : isVariableStatement body.kind = true := by
    rw [declarationKind?, several] at own
    split at own
    · assumption
    · obtain ⟨_, _, other⟩ := Option.map_eq_some_iff.mp own
      cases other
  obtain ⟨same, read, form⟩ := local_export_variables ctx n.span _ body _ clear found isVariables made
  cases form
  obtain ⟨keyword, opened, spelled⟩ := variable_items_spelled ctx n.span body declared.parts read
  exact ⟨body, keyword, ⟨kind, found, isVariables⟩, opened, spelled⟩

theorem statement_keeps_names (item : Item) (done : (statement ctx n).outcome = .ok (some item)) :
    KeepsNames ctx n item := by
  cases statement_yields ctx n item done with
  | importing literal raw module node kind sound required source cooked resolved made =>
      exact import_keeps_names ctx n module node made
  | reexporting literal raw module node kind sound clear source cooked resolved made =>
      exact reexport_keeps_names ctx n module node made
  | exporting node kind sound clear source made =>
      have apart : ¬ (ExportParts.ofStatement n).Clash := fun clash => by
        rw [(ExportParts.ambiguous_iff _).mpr clash] at clear
        cases clear
      cases node with
      | declaration span isDefault declared =>
          exact declaration_keeps_names ctx n span isDefault declared kind sound apart source done made
      | list span bound =>
          obtain ⟨clause, listed, read⟩ := local_export_of_list ctx n.span _ span bound made
          exact ⟨clause, listed, bindings_spelled ctx .exporting n.span clause bound read⟩

end Statements

section Readers

variable (ctx : Context)

structure ReadsEntries (side : Side) (span : Span) (clause : Node) : Prop where
  accepted : (∃ bound, bindings ctx side span clause = .ok bound) ↔ ∀ entry ∈ entriesOf side clause, GivesName entry
  spelled : ∀ bound, bindings ctx side span clause = .ok bound →
    List.Forall₂ (Spells ctx.source) (entriesOf side clause) bound
  refused : ∀ failure, bindings ctx side span clause = .error failure →
    ∃ before entry after reason, entriesOf side clause = before ++ entry :: after ∧
      (∀ earlier ∈ before, GivesName earlier) ∧ EntryFault side entry reason ∧
      failure = .unsupported reason span ctx.file

structure ReadsDeclarators (span : Span) (body : Node) : Prop where
  accepted : (∃ items, variableItems ctx span body = .ok items) ↔
    (∃ keyword : VariableKeyword, opening body = some keyword.label) ∧
      ∀ declarator ∈ declaratorsOf body, DeclaresName declarator
  spelled : ∀ items, variableItems ctx span body = .ok items →
    ∃ keyword, opening body = some keyword.label ∧
      List.Forall₂ (Declares keyword ctx.source) (declaratorsOf body) items
  refused : ∀ failure, variableItems ctx span body = .error failure →
    (∀ keyword : VariableKeyword, opening body ≠ some keyword.label) ∧
        failure = .unsupported (.variableKeyword ((opening body).getD "")) span ctx.file ∨
      (∃ keyword : VariableKeyword, opening body = some keyword.label) ∧
        ∃ before declarator after, declaratorsOf body = before ++ declarator :: after ∧
          (∀ earlier ∈ before, DeclaresName earlier) ∧ ¬ DeclaresName declarator ∧
          failure = .unsupported .destructuring span ctx.file

theorem names_kept :
    (∀ side span clause, ReadsEntries ctx side span clause) ∧
    (∀ span body, ReadsDeclarators ctx span body) ∧
    (∀ n side clause failure, bindings ctx side n.span clause = .error failure →
      (ReadsClause n side clause → ∃ fault, (statement ctx n).outcome = .error fault) ∧
      (ComesTo ctx n side clause → (statement ctx n).outcome = .error failure)) ∧
    (∀ n body failure, ReadsVariables n body → variableItems ctx n.span body = .error failure →
      (∃ fault, (statement ctx n).outcome = .error fault) ∧
      (n.hasError = false → ¬ (ExportParts.ofStatement n).Clash → (statement ctx n).outcome = .error failure)) ∧
    ∀ n item, (statement ctx n).outcome = .ok (some item) → KeepsNames ctx n item := by
  refine ⟨?_, ?_, ?_, ?_, statement_keeps_names ctx⟩
  · intro side span clause
    exact ⟨bindings_ok_iff ctx side span clause, bindings_spelled ctx side span clause,
      bindings_fail ctx side span clause⟩
  · intro span body
    exact ⟨variable_items_ok_iff ctx span body, variable_items_spelled ctx span body, variable_items_fail ctx span body⟩
  · intro n side clause failure failed
    exact ⟨fun reads => clause_refused ctx n side clause failure reads failed,
      fun comes => clause_failure ctx n side clause failure comes failed⟩
  · intro n body failure reads failed
    exact ⟨variables_refused ctx n body failure reads failed,
      fun sound clear => variables_failure ctx n body failure reads sound clear failed⟩

end Readers

-- `import{a as b,c}from'd'`, read as a clause of two lists.
def listedSource : Bytes :=
  [105, 109, 112, 111, 114, 116, 123, 97, 32, 97, 115, 32, 98, 44, 99, 125, 102, 114, 111, 109, 39, 100, 39]

def renamedEntry : Node :=
  ⟨"import_specifier", 7, 13, true, none, false,
    [⟨"identifier", 7, 8, true, some "name", false, []⟩, ⟨"identifier", 12, 13, true, some "alias", false, []⟩]⟩

def plainEntry : Node :=
  ⟨"import_specifier", 14, 15, true, none, false, [⟨"identifier", 14, 15, true, some "name", false, []⟩]⟩

def firstList : Node := ⟨"named_imports", 6, 13, true, none, false, [plainEntry]⟩

def importOf (last : Node) : Node :=
  ⟨"import_statement", 0, 23, true, none, false,
    [⟨"import_clause", 6, 16, true, none, false, [firstList, last]⟩,
     ⟨"string", 20, 23, true, some "source", false, [⟨"string_fragment", 21, 22, true, none, false, []⟩]⟩]⟩

def lastList : Node := ⟨"named_imports", 6, 16, true, none, false, [renamedEntry, plainEntry]⟩

def quotedList : Node :=
  ⟨"named_imports", 6, 16, true, none, false,
    [plainEntry,
     ⟨"import_specifier", 7, 13, true, none, false,
       [⟨"identifier", 7, 8, true, some "name", false, []⟩, ⟨"string", 12, 13, true, some "alias", false, []⟩]⟩,
     ⟨"import_specifier", 14, 15, true, none, false, []⟩]⟩

def listing : Context :=
  ⟨listedSource, Text.ofString "/d/m.js", fun raw => .pure ⟨raw, true, none⟩⟩

theorem names_kept_two_lists :
    KeepsNames listing (importOf lastList) (.importing ⟨⟨Text.ofString "d", true, none⟩, ⟨0, 23⟩, none,
      .named [⟨Text.ofString "a", some (Text.ofString "b")⟩, ⟨Text.ofString "c", none⟩]⟩) ∧
    (statement listing (importOf quotedList)).outcome =
      .error (.unsupported .stringBindingName ⟨0, 23⟩ (Text.ofString "/d/m.js")) ∧
    Failure.message (.unsupported .stringBindingName ⟨0, 23⟩ (Text.ofString "/d/m.js")) =
      Text.ofString "String-literal binding names are not supported (/d/m.js@0-23)" := by
  obtain ⟨_, _, clauses, _, kept⟩ := names_kept listing
  have comes : ComesTo listing (importOf quotedList) .importing quotedList :=
    .imports _ _ _ _ [firstList] [] _ rfl rfl rfl rfl rfl rfl rfl rfl rfl
  refine ⟨?_, ?_, by decide +kernel⟩
  · exact kept (importOf lastList) _ rfl
  · exact (clauses (importOf quotedList) .importing quotedList _ rfl).2 comes

end Classification

end Linkage
