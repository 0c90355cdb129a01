import Linkage.Literal
import Linkage.Resolver

set_option autoImplicit false

namespace Linkage

inductive Item where
  | importing (node : Import)
  | exporting (node : Export)
  | reexporting (node : Reexport)
deriving DecidableEq

namespace Item

def toGraph : Item → Graph
  | .importing node => ⟨[node], [], []⟩
  | .exporting node => ⟨[], [node], []⟩
  | .reexporting node => ⟨[], [], [node]⟩

end Item

namespace Classification

structure Context where
  source : Bytes
  file : Text
  resolve : Text → Traced ModuleSpecifier

variable (ctx : Context)

def unsupported {α : Type} (reason : Unsupported) (span : Span) : Except Failure α :=
  .error (.unsupported reason span ctx.file)

def checked {α : Type} : Except PartsFault α → Except Failure α
  | .ok node => .ok node
  | .error fault => .error (.parts fault)

def definitionKind? (kind : String) : Option DefinitionKind :=
  if ["function_declaration", "function_signature", "function_expression", "function"].contains kind
  then some .function
  else if ["generator_function_declaration", "generator_function"].contains kind
  then some .generator
  else if ["class_declaration", "abstract_class_declaration", "class"].contains kind
  then some .classDefinition
  else none

def isVariableStatement (kind : String) : Bool :=
  kind == "lexical_declaration" || kind == "variable_declaration"

def specifierKind : Side → String
  | .importing => "import_specifier"
  | .exporting => "export_specifier"

def binding (side : Side) (span : Span) (entry : Node) : Except Failure Binding :=
  match entry.childInField? "name" with
  | none => unsupported ctx (.malformedSpecifier side) span
  | some name =>
    let newName := entry.childInField? "alias"
    if name.kind == "string" || newName.any (·.kind == "string") then
      unsupported ctx .stringBindingName span
    else .ok ⟨name.text ctx.source, newName.map (·.text ctx.source)⟩

def bindingsOf (side : Side) (span : Span) : List Node → Except Failure (List Binding)
  | [] => .ok []
  | entry :: rest => do
    let first ← binding ctx side span entry
    let more ← bindingsOf side span rest
    return first :: more

def bindings (side : Side) (span : Span) (clause : Node) : Except Failure (List Binding) :=
  bindingsOf ctx side span (clause.namedChildren.filter (·.kind == specifierKind side))

def moduleOf (literal : Node) : Traced ModuleSpecifier := do
  let raw ← Traced.ofExcept (Literal.value literal ctx.source)
  ctx.resolve raw

structure ImportParts where
  default : Option Text
  whole : Option Text
  named : Option (List Binding)

def importPart (span : Span) (parts : ImportParts) (n : Node) : Except Failure ImportParts :=
  if n.kind == "identifier" then
    .ok { parts with default := some (n.text ctx.source) }
  else if n.kind == "namespace_import" then
    match n.childOfKind? "identifier" with
    | none => unsupported ctx .wholeImportWithoutName span
    | some name => .ok { parts with whole := some (name.text ctx.source) }
  else if n.kind == "named_imports" then do
    let named ← bindings ctx .importing span n
    return { parts with named := some named }
  else .ok parts

def importParts (span : Span) : ImportParts → List Node → Except Failure ImportParts
  | parts, [] => .ok parts
  | parts, n :: rest => do importParts span (← importPart ctx span parts n) rest

def importNode (statement : Node) (module : ModuleSpecifier) : Except Failure Import :=
  let span := statement.span
  match statement.childOfKind? "import_clause" with
  | none => .ok ⟨module, span, none, .nothing⟩
  | some clause => do
    let parts ← importParts ctx span ⟨none, none, none⟩ clause.namedChildren
    checked (Import.ofParts module span parts.default parts.whole parts.named)

-- An import statement; an import that requires a module is none of the graph's.
def importStatement (statement : Node) : Traced (Option Item) :=
  match statement.childOfKind? "import_require_clause" with
  | some _ => Traced.pure none
  | none =>
    match statement.childInField? "source" with
    | none => Traced.ofExcept (unsupported ctx .importWithoutSource statement.span)
    | some literal => do
      let module ← moduleOf ctx literal
      let node ← Traced.ofExcept (importNode ctx statement module)
      return some (.importing node)

def declarators (span : Span) (keyword : VariableKeyword) :
    List Node → Except Failure (List (Declaration × Option VariableKeyword))
  | [] => .ok []
  | declarator :: rest =>
    match declarator.childInField? "name" with
    | none => unsupported ctx .destructuring span
    | some name =>
      if name.kind == "identifier" then do
        let more ← declarators span keyword rest
        return (⟨name.text ctx.source, none⟩, some keyword) :: more
      else unsupported ctx .destructuring span

def variableItems (span : Span) (statement : Node) :
    Except Failure (List (Declaration × Option VariableKeyword)) :=
  let word := match statement.children with
    | [] => ""
    | first :: _ => first.kind
  match VariableKeyword.ofLabel? word with
  | none => unsupported ctx (.variableKeyword word) span
  | some keyword =>
    declarators ctx span keyword
      (statement.namedChildren.filter (·.kind == "variable_declarator"))

def declarationNode (span : Span) (isDefault : Bool) (kind : DeclarationKind)
    (parts : List (Declaration × Option VariableKeyword)) : Except Failure (Option Export) := do
  let declared ← checked (Declared.ofParts kind parts)
  return some (.declaration span isDefault declared)

-- A declaration that is not ambient. Types, interfaces, enumerations and namespaces yield nothing.
def plainDeclaration (span : Span) (isDefault : Bool) (declaration : Node) :
    Except Failure (Option Export) :=
  if isVariableStatement declaration.kind then do
    let items ← variableItems ctx span declaration
    declarationNode span isDefault .ofVariables items
  else match definitionKind? declaration.kind with
    | none => .ok none
    | some kind =>
      match declaration.childInField? "name" with
      | none => unsupported ctx (.anonymousDefault kind) span
      | some name =>
        declarationNode span isDefault (.definition kind) [(⟨name.text ctx.source, none⟩, none)]

def ambientBody? (declaration : Node) : Option Node :=
  declaration.namedChildren.find? fun n =>
    isVariableStatement n.kind || (definitionKind? n.kind).isSome

def exportedDeclaration (span : Span) (isDefault : Bool) (declaration : Node) :
    Except Failure (Option Export) :=
  if declaration.kind == "ambient_declaration" then
    match ambientBody? declaration with
    | none => .ok none
    | some body => plainDeclaration ctx span isDefault body
  else plainDeclaration ctx span isDefault declaration

structure ExportParts where
  source : Option Node
  clause : Option Node
  wholeExport : Option Node
  star : Option Node
  declaration : Option Node
  value : Option Node
  isDefault : Bool

namespace ExportParts

def ofStatement (statement : Node) : ExportParts where
  source := statement.childInField? "source"
  clause := statement.childOfKind? "export_clause"
  wholeExport := statement.childOfKind? "namespace_export"
  star := statement.childOfKind? "*"
  declaration := statement.childInField? "declaration"
  value := statement.childInField? "value"
  isDefault := (statement.childOfKind? "default").isSome

def marker (parts : ExportParts) : Option Node := parts.wholeExport.or parts.star

-- Two shapes at once, or a source beside a declaration or value.
def isAmbiguous (parts : ExportParts) : Bool :=
  let shapes := [parts.clause, parts.marker, parts.declaration, parts.value].filter (·.isSome)
  shapes.length > 1 ||
    (parts.source.isSome && (parts.declaration.isSome || parts.value.isSome))

end ExportParts

def wholeName (span : Span) (wholeExport : Option Node) : Except Failure (Option Text) :=
  match wholeExport with
  | none => .ok none
  | some n =>
    match n.namedChildren.find? (·.kind != "comment") with
    | none => .ok none
    | some name =>
      if name.kind == "string" then unsupported ctx .stringExportName span
      else .ok (some (name.text ctx.source))

def reexportNode (span : Span) (parts : ExportParts) (module : ModuleSpecifier) :
    Except Failure Reexport :=
  match parts.clause with
  | some clause => do
    let named ← bindings ctx .exporting span clause
    checked (Reexport.ofParts module span (some named) false none)
  | none => do
    let newName ← wholeName ctx span parts.wholeExport
    checked (Reexport.ofParts module span none true newName)

def localExport (span : Span) (parts : ExportParts) : Except Failure (Option Export) :=
  if parts.marker.isSome then unsupported ctx .wholeExportWithoutSource span
  else match parts.clause with
    | some clause => do return some (.list span (← bindings ctx .exporting span clause))
    | none => match parts.declaration with
      | some declaration => exportedDeclaration ctx span parts.isDefault declaration
      | none => match parts.value with
        | some value =>
          if parts.isDefault && (definitionKind? value.kind).isSome then
            plainDeclaration ctx span parts.isDefault value
          else .ok none
        | none => .ok none

def exportStatement (statement : Node) : Traced (Option Item) :=
  let span := statement.span
  let parts := ExportParts.ofStatement statement
  if parts.isAmbiguous then Traced.ofExcept (unsupported ctx .ambiguousExport span)
  else match parts.source with
    | some literal => do
      let module ← moduleOf ctx literal
      let node ← Traced.ofExcept (reexportNode ctx span parts module)
      return some (.reexporting node)
    | none => do
      let node ← Traced.ofExcept (localExport ctx span parts)
      return node.map .exporting

def statement (n : Node) : Traced (Option Item) :=
  if n.kind == Node.errorKind then
    if n.mentionsModule then Traced.ofExcept (unsupported ctx .unparseable n.span)
    else Traced.pure none
  else if n.kind == "import_statement" then
    if n.hasError then Traced.ofExcept (unsupported ctx (.malformedStatement .importing) n.span)
    else importStatement ctx n
  else if n.kind == "export_statement" then
    if n.hasError then Traced.ofExcept (unsupported ctx (.malformedStatement .exporting) n.span)
    else exportStatement ctx n
  else Traced.pure none

def contribution (item : Option Item) : Graph := (item.map Item.toGraph).getD Graph.empty

def statements : List Node → Traced Graph
  | [] => Traced.pure Graph.empty
  | n :: rest => do
    let item ← statement ctx n
    let graph ← statements rest
    return (contribution item).append graph

end Classification

def classify (resolve : Resolution) (source : Bytes) (file directory : Text) (nodes : List Node) :
    Traced Graph :=
  Classification.statements ⟨source, file, fun raw => resolve raw directory (some file)⟩ nodes

end Linkage
