import Linkage.Proofs.ShiftedTrees
import Linkage.Proofs.StatementFailure

set_option autoImplicit false

namespace Linkage

def Import.shift (d : Int) (node : Import) : Import := { node with span := node.span.shift d }

def Reexport.shift (d : Int) (node : Reexport) : Reexport := { node with span := node.span.shift d }

def Export.shift (d : Int) : Export → Export
  | .list span bindings => .list (span.shift d) bindings
  | .declaration span isDefault declared => .declaration (span.shift d) isDefault declared

def Graph.shift (d : Int) (g : Graph) : Graph :=
  ⟨g.imports.map (Import.shift d), g.exports.map (Export.shift d), g.reexports.map (Reexport.shift d)⟩

def Item.shift (d : Int) : Item → Item
  | .importing node => .importing (node.shift d)
  | .exporting node => .exporting (node.shift d)
  | .reexporting node => .reexporting (node.shift d)

theorem Graph.append_shift (d : Int) (g h : Graph) : (g.append h).shift d = (g.shift d).append (h.shift d) := by
  simp only [Graph.append, Graph.shift, List.map_append]

namespace Failure

def shift (d : Int) : Failure → Failure
  | .unsupported reason span file => .unsupported reason (span.shift d) file
  | failure => failure

def moved {α β : Type} (d : Int) (move : α → β) : Except Failure α → Except Failure β
  | .ok a => .ok (move a)
  | .error failure => .error (failure.shift d)

theorem moved_bind {α β γ δ : Type} {d : Int} {first : α → γ} {second : β → δ} {x : Except Failure α}
    {y : Except Failure γ} {f : α → Except Failure β} {g : γ → Except Failure δ} (start : y = moved d first x)
    (next : ∀ a, g (first a) = moved d second (f a)) : (y >>= g) = moved d second (x >>= f) := by
  subst start
  cases x with
  | error failure => rfl
  | ok a => exact next a

end Failure

def Traced.shift {α β : Type} (d : Int) (move : α → β) (x : Traced α) : Traced β :=
  ⟨x.probes, Failure.moved d move x.outcome⟩

namespace Literal

theorem piece_shift (before source after : Bytes) (n : Node) (within : n.Within source.length) :
    piece (before ++ source ++ after) (n.shift before.length) = piece source n := by
  rw [piece, piece, Node.shift_kind, Node.text_shift n before source after within]

theorem pieces_shift (before source after : Bytes) (nodes : List Node)
    (within : ∀ n ∈ nodes, n.Within source.length) :
    pieces (before ++ source ++ after) (nodes.map (Node.shift before.length)) = pieces source nodes := by
  induction nodes with
  | nil => rfl
  | cons n rest ih =>
      obtain ⟨inside, later⟩ := List.forall_mem_cons.mp within
      rw [List.map_cons, pieces, pieces, piece_shift before source after n inside, ih later]

theorem value_shift (before source after : Bytes) (n : Node) (within : n.Within source.length) :
    value (n.shift before.length) (before ++ source ++ after) = value n source := by
  rw [value, value, Node.named_children_shift]
  exact pieces_shift before source after n.namedChildren fun _ member => within.named_child member

end Literal

namespace Classification

open Node
open Failure (moved moved_bind)

def Context.around (ctx : Context) (before after : Bytes) : Context :=
  { ctx with source := before ++ ctx.source ++ after }

variable (ctx : Context) (before after : Bytes)

theorem text_around (n : Node) (within : n.Within ctx.source.length) :
    (n.shift before.length).text (ctx.around before after).source = n.text ctx.source :=
  text_shift n before ctx.source after within

-- Each reader gives for a shifted tree what it gives for the tree, with its failures and spans moved.
theorem binding_shift (side : Side) (span : Span) (entry : Node) (within : entry.Within ctx.source.length) :
    binding (ctx.around before after) side (span.shift before.length) (entry.shift before.length) =
      moved before.length id (binding ctx side span entry) := by
  rw [binding, binding, child_in_field_shift, child_in_field_shift]
  cases named : entry.childInField? "name" with
  | none => rfl
  | some name =>
      cases renamed : entry.childInField? "alias" with
      | none =>
          simp only [Option.map_some, Option.map_none, shift_kind,
            text_around ctx before after name (within.child_in_field named)]
          split <;> rfl
      | some newName =>
          simp only [Option.map_some, Option.any_some, shift_kind,
            text_around ctx before after name (within.child_in_field named),
            text_around ctx before after newName (within.child_in_field renamed)]
          split <;> rfl

theorem bindings_of_shift (side : Side) (span : Span) (entries : List Node)
    (within : ∀ entry ∈ entries, entry.Within ctx.source.length) :
    bindingsOf (ctx.around before after) side (span.shift before.length) (entries.map (shift before.length)) =
      moved before.length id (bindingsOf ctx side span entries) := by
  induction entries with
  | nil => rfl
  | cons entry rest ih =>
      obtain ⟨inside, later⟩ := List.forall_mem_cons.mp within
      rw [List.map_cons, bindingsOf, bindingsOf]
      apply moved_bind (binding_shift ctx before after side span entry inside)
      intro first
      apply moved_bind (ih later)
      intro more
      rfl

theorem bindings_shift (side : Side) (span : Span) (clause : Node) (within : clause.Within ctx.source.length) :
    bindings (ctx.around before after) side (span.shift before.length) (clause.shift before.length) =
      moved before.length id (bindings ctx side span clause) := by
  simp only [bindings, named_children_shift, List.filter_map, Function.comp_def, shift_kind]
  apply bindings_of_shift
  intro entry member
  exact within.named_child (List.mem_of_mem_filter member)

theorem import_part_shift (span : Span) (parts : ImportParts) (n : Node) (within : n.Within ctx.source.length) :
    importPart (ctx.around before after) (span.shift before.length) parts (n.shift before.length) =
      moved before.length id (importPart ctx span parts n) := by
  simp only [importPart, shift_kind, child_of_kind_shift, text_around ctx before after n within]
  split
  · rfl
  · split
    · cases found : n.childOfKind? "identifier" with
      | none => rfl
      | some name =>
          simp only [Option.map_some, text_around ctx before after name (within.child_of_kind found)]
          rfl
    · split
      · apply moved_bind (bindings_shift ctx before after .importing span n within)
        intro named
        rfl
      · rfl

theorem import_parts_shift (span : Span) (parts : ImportParts) (nodes : List Node)
    (within : ∀ n ∈ nodes, n.Within ctx.source.length) :
    importParts (ctx.around before after) (span.shift before.length) parts (nodes.map (shift before.length)) =
      moved before.length id (importParts ctx span parts nodes) := by
  induction nodes generalizing parts with
  | nil => rfl
  | cons n rest ih =>
      obtain ⟨inside, later⟩ := List.forall_mem_cons.mp within
      rw [List.map_cons, importParts, importParts]
      apply moved_bind (import_part_shift ctx before after span parts n inside)
      intro more
      exact ih more later

theorem import_of_parts_shift (d : Int) (module : ModuleSpecifier) (span : Span) (default whole : Option Text)
    (named : Option (List Binding)) :
    checked (Import.ofParts module (span.shift d) default whole named) =
      moved d (Import.shift d) (checked (Import.ofParts module span default whole named)) := by
  cases whole <;> cases named <;> rfl

theorem import_node_shift (n : Node) (module : ModuleSpecifier) (within : n.Within ctx.source.length) :
    importNode (ctx.around before after) (n.shift before.length) module =
      moved before.length (Import.shift before.length) (importNode ctx n module) := by
  simp only [importNode, shift_span, child_of_kind_shift]
  cases found : n.childOfKind? "import_clause" with
  | none => rfl
  | some clause =>
      simp only [Option.map_some, named_children_shift]
      have inside : ∀ c ∈ clause.namedChildren, c.Within ctx.source.length :=
        fun _ member => (within.child_of_kind found).named_child member
      apply moved_bind (import_parts_shift ctx before after n.span _ _ inside)
      intro parts
      exact import_of_parts_shift _ _ _ _ _ _

theorem declarators_shift (span : Span) (keyword : VariableKeyword) (nodes : List Node)
    (within : ∀ n ∈ nodes, n.Within ctx.source.length) :
    declarators (ctx.around before after) (span.shift before.length) keyword (nodes.map (shift before.length)) =
      moved before.length id (declarators ctx span keyword nodes) := by
  induction nodes with
  | nil => rfl
  | cons n rest ih =>
      obtain ⟨inside, later⟩ := List.forall_mem_cons.mp within
      rw [List.map_cons, declarators, declarators, child_in_field_shift]
      cases named : n.childInField? "name" with
      | none => rfl
      | some name =>
          simp only [Option.map_some, shift_kind, text_around ctx before after name (inside.child_in_field named)]
          split
          · apply moved_bind (ih later)
            intro more
            rfl
          · rfl

theorem opening_shift (d : Int) (n : Node) : opening (n.shift d) = opening n := by
  simp only [opening, shift_children, List.head?_map, Option.map_map, Function.comp_def, shift_kind]

theorem variable_items_shift (span : Span) (n : Node) (within : n.Within ctx.source.length) :
    variableItems (ctx.around before after) (span.shift before.length) (n.shift before.length) =
      moved before.length id (variableItems ctx span n) := by
  rw [variable_items_opening, variable_items_opening, opening_shift, named_children_shift]
  split
  · rfl
  · simp only [List.filter_map, Function.comp_def, shift_kind]
    apply declarators_shift
    intro c member
    exact within.named_child (List.mem_of_mem_filter member)

theorem declaration_node_shift (d : Int) (span : Span) (isDefault : Bool) (kind : DeclarationKind)
    (parts : List (Declaration × Option VariableKeyword)) :
    declarationNode (span.shift d) isDefault kind parts =
      moved d (Option.map (Export.shift d)) (declarationNode span isDefault kind parts) := by
  rw [declarationNode, declarationNode]
  cases Declared.ofParts kind parts <;> rfl

theorem plain_declaration_shift (span : Span) (isDefault : Bool) (n : Node) (within : n.Within ctx.source.length) :
    plainDeclaration (ctx.around before after) (span.shift before.length) isDefault (n.shift before.length) =
      moved before.length (Option.map (Export.shift before.length)) (plainDeclaration ctx span isDefault n) := by
  simp only [plainDeclaration, shift_kind, child_in_field_shift]
  split
  · apply moved_bind (variable_items_shift ctx before after span n within)
    intro items
    exact declaration_node_shift _ _ _ _ _
  · split
    · rfl
    · cases named : n.childInField? "name" with
      | none => rfl
      | some name =>
          simp only [Option.map_some, text_around ctx before after name (within.child_in_field named)]
          exact declaration_node_shift _ _ _ _ _

theorem ambient_body_shift (d : Int) (n : Node) : ambientBody? (n.shift d) = (ambientBody? n).map (shift d) := by
  simp only [ambientBody?, named_children_shift, List.find?_map, Function.comp_def, shift_kind]

theorem exported_declaration_shift (span : Span) (isDefault : Bool) (n : Node) (within : n.Within ctx.source.length) :
    exportedDeclaration (ctx.around before after) (span.shift before.length) isDefault (n.shift before.length) =
      moved before.length (Option.map (Export.shift before.length)) (exportedDeclaration ctx span isDefault n) := by
  rw [exportedDeclaration, exportedDeclaration, shift_kind, ambient_body_shift]
  split
  · cases found : ambientBody? n with
    | none => rfl
    | some body =>
        have inside := within.named_child (List.mem_of_find?_eq_some found)
        exact plain_declaration_shift ctx before after span isDefault body inside
  · exact plain_declaration_shift ctx before after span isDefault n within

namespace ExportParts

def shift (d : Int) (parts : ExportParts) : ExportParts where
  source := parts.source.map (Node.shift d)
  clause := parts.clause.map (Node.shift d)
  wholeExport := parts.wholeExport.map (Node.shift d)
  star := parts.star.map (Node.shift d)
  declaration := parts.declaration.map (Node.shift d)
  value := parts.value.map (Node.shift d)
  isDefault := parts.isDefault

theorem of_statement_shift (d : Int) (n : Node) : ofStatement (n.shift d) = (ofStatement n).shift d := by
  simp only [ofStatement, shift, child_in_field_shift, child_of_kind_shift, Option.isSome_map]

theorem shape_shift (d : Int) (parts : ExportParts) : SameShape (parts.shift d) parts :=
  ⟨Option.isSome_map, Option.isSome_map, Option.isSome_map, Option.isSome_map, Option.isSome_map, Option.isSome_map,
    rfl⟩

end ExportParts

theorem whole_name_shift (span : Span) (wholeExport : Option Node)
    (within : ∀ n, wholeExport = some n → n.Within ctx.source.length) :
    wholeName (ctx.around before after) (span.shift before.length) (wholeExport.map (shift before.length)) =
      moved before.length id (wholeName ctx span wholeExport) := by
  cases wholeExport with
  | none => rfl
  | some n =>
      simp only [wholeName, Option.map_some, named_children_shift, List.find?_map, Function.comp_def, shift_kind]
      cases named : n.namedChildren.find? (·.kind != "comment") with
      | none => rfl
      | some name =>
          have inside := (within n rfl).named_child (List.mem_of_find?_eq_some named)
          simp only [Option.map_some, shift_kind, text_around ctx before after name inside]
          split <;> rfl

theorem reexport_of_parts_shift (d : Int) (module : ModuleSpecifier) (span : Span) (named : Option (List Binding))
    (whole : Bool) (newName : Option Text) :
    checked (Reexport.ofParts module (span.shift d) named whole newName) =
      moved d (Reexport.shift d) (checked (Reexport.ofParts module span named whole newName)) := by
  cases named <;> cases whole <;> cases newName <;> rfl

theorem reexport_node_shift (n : Node) (module : ModuleSpecifier) (within : n.Within ctx.source.length) :
    reexportNode (ctx.around before after) (n.span.shift before.length)
        ((ExportParts.ofStatement n).shift before.length) module =
      moved before.length (Reexport.shift before.length)
        (reexportNode ctx n.span (ExportParts.ofStatement n) module) := by
  simp only [reexportNode, ExportParts.shift]
  cases listed : (ExportParts.ofStatement n).clause with
  | some clause =>
      have inside : clause.Within ctx.source.length := within.child_of_kind listed
      apply moved_bind (bindings_shift ctx before after .exporting n.span clause inside)
      intro named
      exact reexport_of_parts_shift _ _ _ _ _ _
  | none =>
      have inside : ∀ c, (ExportParts.ofStatement n).wholeExport = some c → c.Within ctx.source.length :=
        fun _ found => within.child_of_kind found
      apply moved_bind (whole_name_shift ctx before after n.span _ inside)
      intro newName
      exact reexport_of_parts_shift _ _ _ _ _ _

theorem local_export_shift (n : Node) (within : n.Within ctx.source.length) :
    localExport (ctx.around before after) (n.span.shift before.length)
        ((ExportParts.ofStatement n).shift before.length) =
      moved before.length (Option.map (Export.shift before.length))
        (localExport ctx n.span (ExportParts.ofStatement n)) := by
  rw [localExport, localExport, (ExportParts.shape_shift before.length (ExportParts.ofStatement n)).marker]
  split
  · rfl
  · simp only [ExportParts.shift]
    cases listed : (ExportParts.ofStatement n).clause with
    | some clause =>
        have inside : clause.Within ctx.source.length := within.child_of_kind listed
        apply moved_bind (bindings_shift ctx before after .exporting n.span clause inside)
        intro named
        rfl
    | none =>
        cases declared : (ExportParts.ofStatement n).declaration with
        | some declaration =>
            have inside : declaration.Within ctx.source.length := within.child_in_field declared
            exact exported_declaration_shift ctx before after n.span _ declaration inside
        | none =>
            cases valued : (ExportParts.ofStatement n).value with
            | none => rfl
            | some value =>
                have inside : value.Within ctx.source.length := within.child_in_field valued
                simp only [Option.map_some, Option.map_none, shift_kind]
                split
                · exact plain_declaration_shift ctx before after n.span _ value inside
                · rfl

-- An activity and the one that it becomes. What the resolution itself refuses at some span is not
-- about the source, and is passed on as it is.
def Moves {α β : Type} (d : Int) (move : α → β) (x : Traced α) (y : Traced β) : Prop :=
  y = x.shift d move ∨
    ∃ raw reason span file, (ctx.resolve raw).outcome = .error (.unsupported reason span file) ∧
      x.outcome = .error (.unsupported reason span file) ∧ y = ⟨x.probes, .error (.unsupported reason span file)⟩

theorem moves_bind {α β γ δ : Type} {d : Int} {first : α → γ} {second : β → δ} {x : Traced α} {y : Traced γ}
    {f : α → Traced β} {g : γ → Traced δ} (start : Moves ctx d first x y)
    (next : ∀ a, Moves ctx d second (f a) (g (first a))) : Moves ctx d second (x.bind f) (y.bind g) := by
  obtain ⟨probes, outcome⟩ := x
  rcases start with rfl | ⟨raw, reason, span, file, refused, failed, rfl⟩
  · cases outcome with
    | error failure => exact Or.inl rfl
    | ok a =>
        rcases next a with same | ⟨raw, reason, span, file, refused, failed, same⟩
        · refine Or.inl ?_
          simp only [Traced.shift, moved, Traced.bind, same]
        · refine Or.inr ⟨raw, reason, span, file, refused, failed, ?_⟩
          simp only [Traced.shift, moved, Traced.bind, same]
  · cases failed
    exact Or.inr ⟨raw, reason, span, file, refused, rfl, rfl⟩

theorem moves_of_except {α β : Type} {d : Int} {move : α → β} {x : Except Failure α} {y : Except Failure β}
    (same : y = moved d move x) : Moves ctx d move (.ofExcept x) (.ofExcept y) := by
  subst same
  exact Or.inl rfl

-- Escapes fail without a span, so a span in a failure to read a specifier is the resolution's.
theorem module_of_refused (literal : Node) (reason : Unsupported) (span : Span) (file : Text)
    (failed : (moduleOf ctx literal).outcome = .error (.unsupported reason span file)) :
    ∃ raw, (ctx.resolve raw).outcome = .error (.unsupported reason span file) := by
  rcases Traced.bind_outcome_error _ _ _ failed with ⟨broken, _⟩ | ⟨raw, _, refused⟩
  · obtain ⟨piece, _, _, stuck⟩ := Literal.pieces_fault _ _ _ broken
    cases Literal.escape_fault _ _ stuck
  · exact ⟨raw, refused⟩

theorem module_of_shift (literal : Node) (within : literal.Within ctx.source.length) :
    moduleOf (ctx.around before after) (literal.shift before.length) = moduleOf ctx literal := by
  have cooked := Literal.value_shift before ctx.source after literal within
  simp only [moduleOf, Context.around, cooked]

theorem module_of_moves (literal : Node) (within : literal.Within ctx.source.length) :
    Moves ctx before.length id (moduleOf ctx literal)
      (moduleOf (ctx.around before after) (literal.shift before.length)) := by
  rw [module_of_shift ctx before after literal within]
  have refused := module_of_refused ctx literal
  generalize moduleOf ctx literal = x at refused ⊢
  obtain ⟨probes, outcome⟩ := x
  cases outcome with
  | ok module => exact Or.inl rfl
  | error failure =>
      by_cases spanned : ∃ reason span file, failure = .unsupported reason span file
      · obtain ⟨reason, span, file, rfl⟩ := spanned
        obtain ⟨raw, asked⟩ := refused reason span file rfl
        exact Or.inr ⟨raw, reason, span, file, asked, rfl, rfl⟩
      · refine Or.inl ?_
        cases failure with
        | unsupported reason span file => exact absurd ⟨reason, span, file, rfl⟩ spanned
        | _ => rfl

theorem import_statement_moves (n : Node) (within : n.Within ctx.source.length) :
    Moves ctx before.length (Option.map (Item.shift before.length)) (importStatement ctx n)
      (importStatement (ctx.around before after) (n.shift before.length)) := by
  rw [importStatement, importStatement, child_of_kind_shift, child_in_field_shift]
  cases n.childOfKind? "import_require_clause" with
  | some clause => exact Or.inl rfl
  | none =>
      cases source : n.childInField? "source" with
      | none => exact Or.inl (by rw [shift_span]; rfl)
      | some literal =>
          apply moves_bind ctx (module_of_moves ctx before after literal (within.child_in_field source))
          intro module
          apply moves_bind ctx (moves_of_except ctx (import_node_shift ctx before after n module within))
          intro node
          exact Or.inl rfl

theorem export_statement_moves (n : Node) (within : n.Within ctx.source.length) :
    Moves ctx before.length (Option.map (Item.shift before.length)) (exportStatement ctx n)
      (exportStatement (ctx.around before after) (n.shift before.length)) := by
  simp only [exportStatement, shift_span, ExportParts.of_statement_shift]
  rw [(ExportParts.shape_shift before.length (ExportParts.ofStatement n)).ambiguous]
  split
  · exact Or.inl rfl
  · have sources : ((ExportParts.ofStatement n).shift before.length).source =
        (ExportParts.ofStatement n).source.map (shift before.length) := rfl
    rw [sources]
    cases source : (ExportParts.ofStatement n).source with
    | some literal =>
        have inside : literal.Within ctx.source.length := within.child_in_field source
        apply moves_bind ctx (module_of_moves ctx before after literal inside)
        intro module
        apply moves_bind ctx (moves_of_except ctx (reexport_node_shift ctx before after n module within))
        intro node
        exact Or.inl rfl
    | none =>
        apply moves_bind ctx (moves_of_except ctx (local_export_shift ctx before after n within))
        intro node
        cases node <;> exact Or.inl rfl

theorem statement_moves (n : Node) (within : n.Within ctx.source.length) :
    Moves ctx before.length (Option.map (Item.shift before.length)) (statement ctx n)
      (statement (ctx.around before after) (n.shift before.length)) := by
  simp only [statement, shift_kind, shift_has_error, shift_span, mentions_shift]
  split
  · split <;> exact Or.inl rfl
  · split
    · split
      · exact Or.inl rfl
      · exact import_statement_moves ctx before after n within
    · split
      · split
        · exact Or.inl rfl
        · exact export_statement_moves ctx before after n within
      · exact Or.inl rfl

theorem contribution_shift (d : Int) (item : Option Item) :
    contribution (item.map (Item.shift d)) = (contribution item).shift d := by
  cases item with
  | none => rfl
  | some item => cases item <;> rfl

theorem statements_move (nodes : List Node) (within : ∀ n ∈ nodes, n.Within ctx.source.length) :
    Moves ctx before.length (Graph.shift before.length) (statements ctx nodes)
      (statements (ctx.around before after) (nodes.map (shift before.length))) := by
  induction nodes with
  | nil => exact Or.inl rfl
  | cons n rest ih =>
      obtain ⟨inside, later⟩ := List.forall_mem_cons.mp within
      rw [List.map_cons, statements_cons, statements_cons]
      apply moves_bind ctx (statement_moves ctx before after n inside)
      intro item
      apply moves_bind ctx (ih later)
      intro graph
      refine Or.inl ?_
      rw [contribution_shift, ← Graph.append_shift]
      rfl

end Classification

-- A module is classified as it was, with all spans moved along. Only a refusal of the resolution's own stays as it
-- is, and the resolver makes none over a disk that has no spans to report.
theorem classify_translation (before source after : Bytes) (file directory : Text) (nodes : List Node)
    (within : ∀ n ∈ nodes, n.Within source.length) :
    (∀ (r : Resolver) (disk : Disk),
      (∀ path reason span place, disk path ≠ .error (.unsupported reason span place)) →
        classify (r.resolve disk) (before ++ source ++ after) file directory (nodes.map (Node.shift before.length)) =
          (classify (r.resolve disk) source file directory nodes).shift before.length (Graph.shift before.length)) ∧
    ∀ resolve : Resolution,
      classify resolve (before ++ source ++ after) file directory (nodes.map (Node.shift before.length)) =
          (classify resolve source file directory nodes).shift before.length (Graph.shift before.length) ∨
        ∃ raw reason span path, (resolve raw directory (some file)).outcome = .error (.unsupported reason span path) ∧
          (classify resolve source file directory nodes).outcome = .error (.unsupported reason span path) ∧
          classify resolve (before ++ source ++ after) file directory (nodes.map (Node.shift before.length)) =
            classify resolve source file directory nodes := by
  have moves (resolve : Resolution) := Classification.statements_move
    (Classification.context resolve source file directory) before after nodes within
  constructor
  · intro r disk spanless
    rcases moves (r.resolve disk) with translated | ⟨raw, reason, span, place, refused, _, _⟩
    · exact translated
    · rcases Resolver.resolve_fails r disk raw directory (some file) _ refused with unresolved | ⟨path, _, fault⟩
      · cases unresolved
      · exact absurd fault (spanless path reason span place)
  · intro resolve
    rcases moves resolve with translated | ⟨raw, reason, span, path, refused, failed, passed⟩
    · exact Or.inl translated
    · refine Or.inr ⟨raw, reason, span, path, refused, failed, ?_⟩
      rw [← failed] at passed
      exact passed

-- `import"é";export{é};`
def accentSource : Bytes :=
  [105, 109, 112, 111, 114, 116, 34, 195, 169, 34, 59, 101, 120, 112, 111, 114, 116, 123, 195, 169, 125, 59]

def accentStatements : List Node :=
  [⟨"import_statement", 0, 11, true, none, false,
    [⟨"import", 0, 6, false, none, false, []⟩,
     ⟨"string", 6, 10, true, some "source", false, [⟨"string_fragment", 7, 9, true, none, false, []⟩]⟩]⟩,
   ⟨"export_statement", 11, 22, true, none, false,
    [⟨"export", 11, 17, false, none, false, []⟩,
     ⟨"export_clause", 17, 21, true, none, false,
      [⟨"export_specifier", 18, 20, true, none, false,
        [⟨"identifier", 18, 20, true, some "name", false, []⟩]⟩]⟩]⟩]

theorem accent_statements_within : ∀ n ∈ accentStatements, n.Within accentSource.length := by
  repeat' first
    | exact List.forall_mem_nil _
    | refine List.forall_mem_cons.mpr ⟨?_, ?_⟩
    | refine .node _ (by decide) (by decide) (by decide) ?_

theorem classify_translation_accents :
    (∀ n ∈ accentStatements, n.Within accentSource.length) ∧
    classify (Resolver.standard.resolve (Disk.ofLists [] [])) ([195, 188, 59] ++ accentSource ++ [59])
      (Text.ofString "/d/m.js") (Text.ofString "/d") (accentStatements.map (Node.shift 3)) =
        ⟨[], .ok ⟨[⟨⟨[.scalar 'é'], true, none⟩, ⟨3, 14⟩, none, .nothing⟩],
          [.list ⟨14, 25⟩ [⟨[.scalar 'é'], none⟩]], []⟩⟩ := by
  refine ⟨accent_statements_within, ?_⟩
  have own : classify (Resolver.standard.resolve (Disk.ofLists [] [])) accentSource (Text.ofString "/d/m.js")
      (Text.ofString "/d") accentStatements =
        ⟨[], .ok ⟨[⟨⟨[.scalar 'é'], true, none⟩, ⟨0, 11⟩, none, .nothing⟩],
          [.list ⟨11, 22⟩ [⟨[.scalar 'é'], none⟩]], []⟩⟩ := rfl
  have translated := (classify_translation [195, 188, 59] accentSource [59] (Text.ofString "/d/m.js")
    (Text.ofString "/d") accentStatements accent_statements_within).1 Resolver.standard (Disk.ofLists [] [])
    fun _ _ _ _ failed => by cases failed
  rw [own] at translated
  exact translated

end Linkage
