import Linkage.Proofs.PartReading
import Linkage.Proofs.StatementRun

set_option autoImplicit false

namespace Linkage

namespace Classification

-- The ways to a node, one for each kind. A specifier is resolved before the clause beside it is
-- read, so the module stands in the node as the resolution gave it.
inductive Yields (ctx : Context) (n : Node) : Item → Prop where
  | importing (literal : Node) (raw : Text) (module : ModuleSpecifier) (node : Import)
      (kind : n.kind = "import_statement") (sound : n.hasError = false)
      (required : n.childOfKind? "import_require_clause" = none)
      (source : n.childInField? "source" = some literal) (cooked : Literal.value literal ctx.source = .ok raw)
      (resolved : (ctx.resolve raw).outcome = .ok module) (made : importNode ctx n module = .ok node) :
      Yields ctx n (.importing node)
  | reexporting (literal : Node) (raw : Text) (module : ModuleSpecifier) (node : Reexport)
      (kind : n.kind = "export_statement") (sound : n.hasError = false)
      (clear : (ExportParts.ofStatement n).isAmbiguous = false)
      (source : n.childInField? "source" = some literal) (cooked : Literal.value literal ctx.source = .ok raw)
      (resolved : (ctx.resolve raw).outcome = .ok module)
      (made : reexportNode ctx n.span (ExportParts.ofStatement n) module = .ok node) :
      Yields ctx n (.reexporting node)
  | exporting (node : Export) (kind : n.kind = "export_statement") (sound : n.hasError = false)
      (clear : (ExportParts.ofStatement n).isAmbiguous = false) (source : n.childInField? "source" = none)
      (made : localExport ctx n.span (ExportParts.ofStatement n) = .ok (some node)) :
      Yields ctx n (.exporting node)

theorem module_of_ok (ctx : Context) (literal : Node) (module : ModuleSpecifier)
    (done : (moduleOf ctx literal).outcome = .ok module) :
    ∃ raw, Literal.value literal ctx.source = .ok raw ∧ (ctx.resolve raw).outcome = .ok module :=
  Traced.bind_outcome_ok (Traced.ofExcept (Literal.value literal ctx.source)) ctx.resolve module done

theorem import_statement_yields (ctx : Context) (n : Node) (item : Item) (kind : n.kind = "import_statement")
    (sound : n.hasError = false) (done : (importStatement ctx n).outcome = .ok (some item)) : Yields ctx n item := by
  cases required : n.childOfKind? "import_require_clause" with
  | some clause =>
      simp only [importStatement, required] at done
      cases done
  | none =>
      cases source : n.childInField? "source" with
      | none =>
          simp only [importStatement, required, source] at done
          cases done
      | some literal =>
          simp only [importStatement, required, source] at done
          obtain ⟨module, resolving, rest⟩ := Traced.bind_outcome_ok _ _ _ done
          obtain ⟨node, made, last⟩ := Traced.bind_outcome_ok _ _ _ rest
          obtain ⟨raw, cooked, resolved⟩ := module_of_ok ctx literal module resolving
          cases last
          exact .importing literal raw module node kind sound required source cooked resolved made

theorem export_statement_yields (ctx : Context) (n : Node) (item : Item) (kind : n.kind = "export_statement")
    (sound : n.hasError = false) (done : (exportStatement ctx n).outcome = .ok (some item)) : Yields ctx n item := by
  cases clear : (ExportParts.ofStatement n).isAmbiguous with
  | true =>
      simp only [exportStatement, clear, if_true] at done
      cases done
  | false =>
      cases source : n.childInField? "source" with
      | none =>
          have bare : (ExportParts.ofStatement n).source = none := source
          simp only [exportStatement, clear, Bool.false_eq_true, if_false, bare] at done
          obtain ⟨node, made, last⟩ := Traced.bind_outcome_ok _ _ _ done
          cases node with
          | none => cases last
          | some node =>
              cases last
              exact .exporting node kind sound clear source made
      | some literal =>
          have given : (ExportParts.ofStatement n).source = some literal := source
          simp only [exportStatement, clear, Bool.false_eq_true, if_false, given] at done
          obtain ⟨module, resolving, rest⟩ := Traced.bind_outcome_ok _ _ _ done
          obtain ⟨node, made, last⟩ := Traced.bind_outcome_ok _ _ _ rest
          obtain ⟨raw, cooked, resolved⟩ := module_of_ok ctx literal module resolving
          cases last
          exact .reexporting literal raw module node kind sound clear source cooked resolved made

theorem statement_yields (ctx : Context) (n : Node) (item : Item)
    (done : (statement ctx n).outcome = .ok (some item)) : Yields ctx n item := by
  -- What is not an import or export statement yields nothing, and neither does a malformed one.
  rw [statement] at done
  split at done
  · split at done <;> cases done
  · split at done
    · rename_i kind
      cases sound : n.hasError with
      | true =>
          simp only [sound, if_true] at done
          cases done
      | false =>
          simp only [sound, Bool.false_eq_true, if_false] at done
          exact import_statement_yields ctx n item (eq_of_beq kind) sound done
    · split at done
      · rename_i kind
        cases sound : n.hasError with
        | true =>
            simp only [sound, if_true] at done
            cases done
        | false =>
            simp only [sound, Bool.false_eq_true, if_false] at done
            exact export_statement_yields ctx n item (eq_of_beq kind) sound done
      · cases done

theorem item_yields (ctx : Context) (n : Node) (item : Item) (yielded : item? ctx n = some item) :
    Yields ctx n item := by
  apply statement_yields
  rw [item?] at yielded
  split at yielded
  · rename_i outcome
    rw [outcome, yielded]
  · contradiction

theorem import_node_made (ctx : Context) (n : Node) (module : ModuleSpecifier) (node : Import)
    (made : importNode ctx n module = .ok node) :
    ¬ (node.whole?.isSome ∧ node.named?.isSome) ∧ node.module = module ∧ node.span = n.span := by
  rcases import_node_gives ctx n module with gives | ⟨clash, _⟩
  · exact gives.holds _ _ node made
  · rw [clash] at made
    cases made

theorem reexport_node_made (ctx : Context) (span : Span) (parts : ExportParts) (module : ModuleSpecifier)
    (node : Reexport) (made : reexportNode ctx span parts module = .ok node) :
    (node.named?.isSome ↔ node.isWhole = false) ∧ (node.newName?.isSome → node.isWhole = true) ∧
      node.module = module ∧ node.span = span :=
  (reexport_node_gives ctx span parts module).holds _ _ node made

end Classification

end Linkage
