import Linkage.Proofs.PartReading
import Linkage.Proofs.StatementRun

set_option autoImplicit false

namespace Linkage

namespace Classification

def declarationKind? (n : Node) : Option DeclarationKind :=
  if isVariableStatement n.kind then some .ofVariables else (definitionKind? n.kind).map .definition

namespace Gives

theorem map {α β : Type} {ctx : Context} {span : Span} (x : Except Failure α) (f : α → β) (P : α → Prop) (Q : β → Prop)
    (gives : Gives ctx span x P) (kept : ∀ a, P a → Q (f a)) : Gives ctx span (x.map f) Q := by
  rcases gives with ⟨a, rfl, holds⟩ | ⟨reason, rfl⟩
  · exact .result _ _ (kept a holds)
  · exact Or.inr ⟨reason, rfl⟩

end Gives

namespace ExportParts

def shapes (parts : ExportParts) : List (Option Node) := [parts.clause, parts.marker, parts.declaration, parts.value]

-- Two shapes at once, or a source beside something that the module has of its own.
def Clash (parts : ExportParts) : Prop :=
  2 ≤ parts.shapes.countP Option.isSome ∨
    parts.source.isSome = true ∧ (parts.declaration.isSome = true ∨ parts.value.isSome = true)

theorem ambiguous_iff (parts : ExportParts) : parts.isAmbiguous = true ↔ parts.Clash := by
  simp only [isAmbiguous, Clash, shapes, ← List.countP_eq_length_filter, Bool.or_eq_true, Bool.and_eq_true,
    decide_eq_true_eq]
  rfl

theorem clear_of_not_clash (parts : ExportParts) (clear : ¬ parts.Clash) : parts.isAmbiguous = false := by
  cases ambiguous : parts.isAmbiguous with
  | true => exact absurd ((ambiguous_iff parts).mp ambiguous) clear
  | false => rfl

-- The node that is looked at for what an export declares: its declaration, what an ambient
-- declaration wraps, or a default value that defines something.
def body? (parts : ExportParts) : Option Node :=
  match parts.declaration with
  | some declaration =>
    if declaration.kind == "ambient_declaration" then ambientBody? declaration else some declaration
  | none => parts.value.filter fun value => parts.isDefault && (definitionKind? value.kind).isSome

end ExportParts

section Declarations

variable (ctx : Context) (span : Span) (isDefault : Bool)

theorem declaration_node_ok (declared : Declared) :
    declarationNode span isDefault declared.kind declared.parts = .ok (some (.declaration span isDefault declared)) := by
  have accepted : Declared.ofParts declared.kind declared.parts = .ok declared :=
    (Declared.of_parts_iff _ _ _).mpr ⟨rfl, rfl⟩
  rw [declarationNode, accepted]
  rfl

theorem plain_declaration_idle (n : Node) (idle : declarationKind? n = none) :
    plainDeclaration ctx span isDefault n = .ok none := by
  rw [declarationKind?] at idle
  split at idle
  · cases idle
  · rename_i plain
    simp only [plainDeclaration, plain, Bool.false_eq_true, if_false, Option.map_eq_none_iff.mp idle]

theorem plain_declaration_declares (n : Node) (kind : DeclarationKind) (declares : declarationKind? n = some kind) :
    Gives ctx span (plainDeclaration ctx span isDefault n) fun node =>
      ∃ declared : Declared, node = some (.declaration span isDefault declared) ∧ declared.kind = kind := by
  rw [declarationKind?] at declares
  split at declares
  · rename_i several
    cases declares
    simp only [plainDeclaration, several, if_true]
    apply Gives.bind _ _ _ _ (variable_items_gives ctx span n)
    rintro items ⟨keyword, named⟩
    obtain ⟨declared, own, shown, _⟩ := variable_items_declared items keyword named
    rw [← own, ← shown, declaration_node_ok]
    exact .result _ _ ⟨declared, rfl, rfl⟩
  · rename_i plain
    obtain ⟨definition, found, rfl⟩ := Option.map_eq_some_iff.mp declares
    simp only [plainDeclaration, plain, Bool.false_eq_true, if_false, found]
    cases n.childInField? "name" with
    | none => exact .refusal _ _
    | some name =>
        refine Or.inl ⟨_, declaration_node_ok span isDefault (.definitions definition [⟨name.text ctx.source, none⟩]), ?_⟩
        exact ⟨_, rfl, rfl⟩

end Declarations

section LocalExports

variable (ctx : Context) (span : Span) (parts : ExportParts)

theorem local_export_marked (marked : parts.marker.isSome = true) :
    localExport ctx span parts = unsupported ctx .wholeExportWithoutSource span := by
  rw [localExport, if_pos marked]

theorem local_export_listed (clause : Node) (unmarked : parts.marker = none)
    (listed : parts.clause = some clause) :
    Gives ctx span (localExport ctx span parts) fun node => ∃ entries, node = some (.list span entries) := by
  simp only [localExport, unmarked, Option.isSome_none, Bool.false_eq_true, if_false, listed]
  apply Gives.bind _ _ _ _ (bindings_gives ctx .exporting span clause)
  intro entries _
  exact .result _ _ ⟨entries, rfl⟩

theorem local_export_body (unmarked : parts.marker = none) (unlisted : parts.clause = none) :
    localExport ctx span parts = parts.body?.elim (.ok none) (plainDeclaration ctx span parts.isDefault) := by
  simp only [localExport, unmarked, Option.isSome_none, Bool.false_eq_true, if_false, unlisted, ExportParts.body?]
  cases parts.declaration with
  | some declaration =>
      simp only [exportedDeclaration]
      split
      · cases ambientBody? declaration <;> rfl
      · rfl
  | none =>
      cases parts.value with
      | none => rfl
      | some value =>
          simp only [Option.filter_some]
          split
          · rfl
          · rfl

def Shows (kind : Option DeclarationKind) (node : Option Export) : Prop :=
  match kind with
  | none => node = none
  | some kind => ∃ declared : Declared, node = some (.declaration span parts.isDefault declared) ∧ declared.kind = kind

theorem local_export_shows (unmarked : parts.marker = none) (unlisted : parts.clause = none) :
    Gives ctx span (localExport ctx span parts) (Shows span parts (parts.body?.bind declarationKind?)) := by
  rw [local_export_body ctx span parts unmarked unlisted]
  cases parts.body? with
  | none => exact .result _ _ rfl
  | some body =>
      rw [Option.bind_some, Option.elim_some]
      cases declares : declarationKind? body with
      | none =>
          rw [plain_declaration_idle ctx span parts.isDefault body declares]
          exact .result _ _ rfl
      | some kind => exact plain_declaration_declares ctx span parts.isDefault body kind declares

end LocalExports

theorem reexport_node_forwards (ctx : Context) (span : Span) (parts : ExportParts) (module : ModuleSpecifier) :
    Gives ctx span (reexportNode ctx span parts module) fun node =>
      node.module = module ∧ node.span = span ∧ node.named?.isSome = parts.clause.isSome ∧
        node.isWhole = parts.clause.isNone := by
  rw [reexportNode]
  cases parts.clause with
  | some clause =>
      apply Gives.bind _ _ _ _ (bindings_gives ctx .exporting span clause)
      intro named _
      exact .result _ _ ⟨rfl, rfl, rfl, rfl⟩
  | none =>
      apply Gives.bind _ _ _ _ (whole_name_gives ctx span parts.wholeExport)
      intro newName _
      exact .result _ _ ⟨rfl, rfl, rfl, rfl⟩

section Statements

variable (ctx : Context) (n : Node) (kind : n.kind = "export_statement") (sound : n.hasError = false)

structure Forwards (literal : Node) : Prop where
  asked : (statement ctx n).probes = (moduleOf ctx literal).probes
  unresolved : ∀ failure, (moduleOf ctx literal).outcome = .error failure →
    (statement ctx n).outcome = .error failure
  resolved : ∀ module, (moduleOf ctx literal).outcome = .ok module →
    Gives ctx n.span (statement ctx n).outcome fun item => ∃ node : Reexport, item = some (.reexporting node) ∧
      node.module = module ∧ node.span = n.span ∧
      node.named?.isSome = (ExportParts.ofStatement n).clause.isSome ∧
      node.isWhole = (ExportParts.ofStatement n).clause.isNone

structure Stays : Prop where
  silent : (statement ctx n).probes = []
  own : Gives ctx n.span (statement ctx n).outcome fun item => ∀ made ∈ item, ∃ node, made = .exporting node
  marked : (ExportParts.ofStatement n).marker.isSome = true →
    ∃ reason, (statement ctx n).outcome = .error (.unsupported reason n.span ctx.file)
  listed : (ExportParts.ofStatement n).clause.isSome = true →
    Gives ctx n.span (statement ctx n).outcome fun item => ∃ entries, item = some (.exporting (.list n.span entries))
  declared : ∀ span isDefault declared,
    (statement ctx n).outcome = .ok (some (.exporting (.declaration span isDefault declared))) →
      span = n.span ∧ isDefault = (ExportParts.ofStatement n).isDefault ∧
      (ExportParts.ofStatement n).marker = none ∧ (ExportParts.ofStatement n).clause = none ∧
      (ExportParts.ofStatement n).body?.bind declarationKind? = some declared.kind
  shown : ¬ (ExportParts.ofStatement n).Clash → (ExportParts.ofStatement n).marker = none →
    (ExportParts.ofStatement n).clause = none →
    Gives ctx n.span (statement ctx n).outcome fun item => ∃ node, item = node.map .exporting ∧
      Shows n.span (ExportParts.ofStatement n) ((ExportParts.ofStatement n).body?.bind declarationKind?) node

include kind sound

theorem statement_well_formed : statement ctx n = exportStatement ctx n := by
  rw [statement_export ctx n kind, sound]
  rfl

theorem export_clashing (clash : (ExportParts.ofStatement n).Clash) :
    statement ctx n = ⟨[], .error (.unsupported .ambiguousExport n.span ctx.file)⟩ := by
  have ambiguous := (ExportParts.ambiguous_iff _).mpr clash
  simp only [statement_well_formed ctx n kind sound, exportStatement, ambiguous, if_true]
  rfl

theorem export_forwarding (literal : Node) (clear : ¬ (ExportParts.ofStatement n).Clash)
    (source : (ExportParts.ofStatement n).source = some literal) :
    statement ctx n = (moduleOf ctx literal).bind fun module =>
      ⟨[], (reexportNode ctx n.span (ExportParts.ofStatement n) module).map fun node => some (.reexporting node)⟩ := by
  have plain := ExportParts.clear_of_not_clash _ clear
  simp only [statement_well_formed ctx n kind sound, exportStatement, plain, Bool.false_eq_true, if_false, source]
  change Traced.bind _ _ = _
  congr 1
  funext module
  cases reexportNode ctx n.span (ExportParts.ofStatement n) module <;> rfl

theorem export_local (clear : ¬ (ExportParts.ofStatement n).Clash) (source : (ExportParts.ofStatement n).source = none) :
    statement ctx n =
      ⟨[], (localExport ctx n.span (ExportParts.ofStatement n)).map fun node => node.map .exporting⟩ := by
  have plain := ExportParts.clear_of_not_clash _ clear
  simp only [statement_well_formed ctx n kind sound, exportStatement, plain, Bool.false_eq_true, if_false, source]
  cases localExport ctx n.span (ExportParts.ofStatement n) <;> rfl

theorem export_forwards (literal : Node) (clear : ¬ (ExportParts.ofStatement n).Clash)
    (source : (ExportParts.ofStatement n).source = some literal) : Forwards ctx n literal := by
  have whole := export_forwarding ctx n kind sound literal clear source
  cases resolving : (moduleOf ctx literal).outcome with
  | error failure =>
      rw [Traced.bind_error _ _ failure resolving] at whole
      refine ⟨by rw [whole], ?_, ?_⟩
      · intro other failed
        cases resolving.symm.trans failed
        rw [whole]
      · intro module done
        cases resolving.symm.trans done
  | ok module =>
      rw [Traced.bind_ok _ _ module resolving] at whole
      refine ⟨by rw [whole, List.append_nil], ?_, ?_⟩
      · intro failure failed
        cases resolving.symm.trans failed
      · intro other done
        cases resolving.symm.trans done
        rw [whole]
        apply Gives.map _ _ _ _ (reexport_node_forwards ctx n.span (ExportParts.ofStatement n) module)
        intro node shape
        exact ⟨node, rfl, shape⟩

section Clear

variable (clear : ¬ (ExportParts.ofStatement n).Clash) (source : (ExportParts.ofStatement n).source = none)

include clear source

theorem export_marked (marked : (ExportParts.ofStatement n).marker.isSome = true) :
    (statement ctx n).outcome = .error (.unsupported .wholeExportWithoutSource n.span ctx.file) := by
  rw [export_local ctx n kind sound clear source, local_export_marked ctx n.span _ marked]
  rfl

theorem export_listed (clause : Node) (unmarked : (ExportParts.ofStatement n).marker = none)
    (listed : (ExportParts.ofStatement n).clause = some clause) :
    Gives ctx n.span (statement ctx n).outcome fun item =>
      ∃ entries, item = some (.exporting (.list n.span entries)) := by
  rw [export_local ctx n kind sound clear source]
  apply Gives.map _ _ _ _ (local_export_listed ctx n.span _ clause unmarked listed)
  rintro node ⟨entries, rfl⟩
  exact ⟨entries, rfl⟩

theorem export_shown (unmarked : (ExportParts.ofStatement n).marker = none)
    (unlisted : (ExportParts.ofStatement n).clause = none) :
    Gives ctx n.span (statement ctx n).outcome fun item => ∃ node, item = node.map .exporting ∧
      Shows n.span (ExportParts.ofStatement n) ((ExportParts.ofStatement n).body?.bind declarationKind?) node := by
  rw [export_local ctx n kind sound clear source]
  apply Gives.map _ _ _ _ (local_export_shows ctx n.span _ unmarked unlisted)
  intro node shows
  exact ⟨node, rfl, shows⟩

-- A declaration comes of a body only, so neither a marker nor a clause is there.
theorem export_declared (span : Span) (isDefault : Bool) (declared : Declared)
    (done : (statement ctx n).outcome = .ok (some (.exporting (.declaration span isDefault declared)))) :
    span = n.span ∧ isDefault = (ExportParts.ofStatement n).isDefault ∧
      (ExportParts.ofStatement n).marker = none ∧ (ExportParts.ofStatement n).clause = none ∧
      (ExportParts.ofStatement n).body?.bind declarationKind? = some declared.kind := by
  cases marked : (ExportParts.ofStatement n).marker with
  | some marker => cases done.symm.trans (export_marked ctx n kind sound clear source (by rw [marked]; rfl))
  | none =>
      cases listed : (ExportParts.ofStatement n).clause with
      | some clause =>
          obtain ⟨entries, same⟩ := (export_listed ctx n kind sound clear source clause marked listed).holds _ _ _ done
          cases same
      | none =>
          obtain ⟨node, same, shows⟩ := (export_shown ctx n kind sound clear source marked listed).holds _ _ _ done
          obtain ⟨own, made, form⟩ := Option.map_eq_some_iff.mp same.symm
          cases form
          rw [made] at shows
          cases body : (ExportParts.ofStatement n).body?.bind declarationKind? with
          | none =>
              rw [body] at shows
              cases shows
          | some kind =>
              rw [body] at shows
              obtain ⟨other, form, rfl⟩ := shows
              cases form
              exact ⟨rfl, rfl, rfl, rfl, rfl⟩

end Clear

theorem export_stays (source : (ExportParts.ofStatement n).source = none) : Stays ctx n := by
  by_cases clash : (ExportParts.ofStatement n).Clash
  · have whole := export_clashing ctx n kind sound clash
    have refused (P : Option Item → Prop) : Gives ctx n.span (statement ctx n).outcome P := by
      rw [whole]
      exact .refusal _ _
    refine ⟨by rw [whole], refused _, fun _ => ⟨_, by rw [whole]⟩, fun _ => refused _, ?_, fun clear => absurd clash clear⟩
    intro span isDefault declared done
    rw [whole] at done
    cases done
  · have whole := export_local ctx n kind sound clash source
    refine ⟨by rw [whole], ?_, fun marked => ⟨_, export_marked ctx n kind sound clash source marked⟩, ?_,
      export_declared ctx n kind sound clash source, fun _ => export_shown ctx n kind sound clash source⟩
    · rw [whole]
      apply Gives.map _ _ _ _ (local_export_gives ctx n.span _)
      intro node _ made member
      obtain ⟨own, _, rfl⟩ := Option.map_eq_some_iff.mp member
      exact ⟨own, rfl⟩
    · intro has
      obtain ⟨clause, listed⟩ := Option.isSome_iff_exists.mp has
      cases marked : (ExportParts.ofStatement n).marker with
      | some marker => exact Or.inr ⟨_, export_marked ctx n kind sound clash source (by rw [marked]; rfl)⟩
      | none => exact export_listed ctx n kind sound clash source clause marked listed

theorem export_decision_law :
    ((ExportParts.ofStatement n).Clash →
      statement ctx n = ⟨[], .error (.unsupported .ambiguousExport n.span ctx.file)⟩) ∧
    (¬ (ExportParts.ofStatement n).Clash → ∀ literal, (ExportParts.ofStatement n).source = some literal →
      Forwards ctx n literal) ∧
    ((ExportParts.ofStatement n).source = none → Stays ctx n) :=
  ⟨export_clashing ctx n kind sound, fun clear literal => export_forwards ctx n kind sound literal clear,
    export_stays ctx n kind sound⟩

end Statements

-- `export { } from ""` with an entry that has no name, where the source names no file either.
def namelessExport : Node :=
  ⟨"export_statement", 0, 19, true, none, false,
    [⟨"export_clause", 7, 11, true, none, false, [⟨"export_specifier", 8, 10, true, none, false, []⟩]⟩,
     ⟨"string", 17, 19, true, some "source", false, []⟩]⟩

def nowhere : Context :=
  ⟨[], Text.ofString "/d/m.js", fun raw => ⟨[Text.ofString "/d"], .error (.unresolved raw none)⟩⟩

theorem export_decision_law_nameless :
    bindings nowhere .exporting namelessExport.span ⟨"export_clause", 7, 11, true, none, false,
        [⟨"export_specifier", 8, 10, true, none, false, []⟩]⟩ =
      .error (.unsupported (.malformedSpecifier .exporting) ⟨0, 19⟩ (Text.ofString "/d/m.js")) ∧
    (statement nowhere namelessExport).probes = [Text.ofString "/d"] ∧
    (statement nowhere namelessExport).outcome = .error (.unresolved [] none) := by
  have clear : ¬ (ExportParts.ofStatement namelessExport).Clash :=
    fun clash => absurd ((ExportParts.ambiguous_iff _).mpr clash) (by decide)
  obtain ⟨_, forwards, _⟩ := export_decision_law nowhere namelessExport rfl rfl
  have forwarded := forwards clear _ rfl
  exact ⟨rfl, forwarded.asked, forwarded.unresolved _ rfl⟩

end Classification

end Linkage
