import Linkage.Span

set_option autoImplicit false

namespace Linkage

-- The target of an import or a re-export: a package id as written, or the path of a file. The
-- transport is a tag such as `copy:` in front of the specifier.
structure ModuleSpecifier where
  target : Text
  isPackage : Bool
  transport : Option Text
deriving DecidableEq

structure Binding where
  name : Text
  newName : Option Text
deriving DecidableEq

namespace Binding

def localName (b : Binding) : Text := b.newName.getD b.name

def symbol (b : Binding) : Option Text := b.newName.map fun _ => b.name

-- Whether an export entry is exported as the default.
def isDefaultRelabel (b : Binding) : Bool := b.newName == some (Text.ofString "default")

end Binding

inductive ImportList where
  | nothing
  | whole (name : Text)
  | named (bindings : List Binding)
deriving DecidableEq

structure Import where
  module : ModuleSpecifier
  span : Span
  default : Option Text
  list : ImportList
deriving DecidableEq

inductive ImportShape where
  | sideEffect
  | default
  | whole
  | named
  | defaultWhole
  | defaultNamed
deriving DecidableEq

namespace ImportShape

def label : ImportShape → String
  | .sideEffect => "side_effect"
  | .default => "default"
  | .whole => "namespace"
  | .named => "named"
  | .defaultWhole => "default_namespace"
  | .defaultNamed => "default_named"

end ImportShape

inductive PartsFault where
  | wholeAndNamed
  | namedXorWhole
  | aliasWithoutWhole
  | keywordMismatch
deriving DecidableEq

namespace PartsFault

def message : PartsFault → String
  | .wholeAndNamed => "An import cannot bind both a namespace and named bindings"
  | .namedXorWhole => "A re-export forwards either named bindings or the whole namespace"
  | .aliasWithoutWhole => "namespace_alias requires a namespace re-export"
  | .keywordMismatch => "var_kind is set exactly for variable declarations"

end PartsFault

namespace Import

def shape (i : Import) : ImportShape :=
  match i.default, i.list with
  | none, .nothing => .sideEffect
  | none, .whole _ => .whole
  | none, .named _ => .named
  | some _, .nothing => .default
  | some _, .whole _ => .defaultWhole
  | some _, .named _ => .defaultNamed

def ofParts (module : ModuleSpecifier) (span : Span) (default whole : Option Text)
    (named : Option (List Binding)) : Except PartsFault Import :=
  match whole, named with
  | some _, some _ => .error .wholeAndNamed
  | some name, none => .ok ⟨module, span, default, .whole name⟩
  | none, some bindings => .ok ⟨module, span, default, .named bindings⟩
  | none, none => .ok ⟨module, span, default, .nothing⟩

end Import

inductive Forwarded where
  | named (bindings : List Binding)
  | whole (newName : Option Text)
deriving DecidableEq

structure Reexport where
  module : ModuleSpecifier
  span : Span
  forwarded : Forwarded
deriving DecidableEq

namespace Reexport

def ofParts (module : ModuleSpecifier) (span : Span) (named : Option (List Binding))
    (whole : Bool) (newName : Option Text) : Except PartsFault Reexport :=
  match named, whole, newName with
  | some _, true, _ => .error .namedXorWhole
  | none, false, _ => .error .namedXorWhole
  | some _, false, some _ => .error .aliasWithoutWhole
  | some bindings, false, none => .ok ⟨module, span, .named bindings⟩
  | none, true, newName => .ok ⟨module, span, .whole newName⟩

end Reexport

inductive VariableKeyword where
  | constKeyword
  | letKeyword
  | varKeyword
deriving DecidableEq

namespace VariableKeyword

def label : VariableKeyword → String
  | .constKeyword => "const"
  | .letKeyword => "let"
  | .varKeyword => "var"

def all : List VariableKeyword := [.constKeyword, .letKeyword, .varKeyword]

def ofLabel? (s : String) : Option VariableKeyword := all.find? fun k => k.label == s

end VariableKeyword

inductive DefinitionKind where
  | function
  | generator
  | classDefinition
deriving DecidableEq

namespace DefinitionKind

def label : DefinitionKind → String
  | .function => "function"
  | .generator => "generator_function"
  | .classDefinition => "class"

def words : DefinitionKind → String
  | .function => "function"
  | .generator => "generator function"
  | .classDefinition => "class"

def all : List DefinitionKind := [.function, .generator, .classDefinition]

end DefinitionKind

inductive DeclarationKind where
  | ofVariables
  | definition (kind : DefinitionKind)
deriving DecidableEq

namespace DeclarationKind

def label : DeclarationKind → String
  | .ofVariables => "variable"
  | .definition kind => kind.label

def all : List DeclarationKind := .ofVariables :: DefinitionKind.all.map .definition

def ofLabel? (s : String) : Option DeclarationKind := all.find? fun k => k.label == s

end DeclarationKind

structure Declaration where
  name : Text
  newName : Option Text
deriving DecidableEq

inductive Declared where
  | ofVariables (items : List (Declaration × VariableKeyword))
  | definitions (kind : DefinitionKind) (items : List Declaration)
deriving DecidableEq

namespace Declared

def kind : Declared → DeclarationKind
  | .ofVariables _ => .ofVariables
  | .definitions kind _ => .definition kind

def withKeywords? : List (Declaration × Option VariableKeyword) →
    Option (List (Declaration × VariableKeyword))
  | [] => some []
  | (d, some k) :: rest => (withKeywords? rest).map ((d, k) :: ·)
  | (_, none) :: _ => none

def withoutKeywords? : List (Declaration × Option VariableKeyword) → Option (List Declaration)
  | [] => some []
  | (d, none) :: rest => (withoutKeywords? rest).map (d :: ·)
  | (_, some _) :: _ => none

def ofParts (kind : DeclarationKind) (parts : List (Declaration × Option VariableKeyword)) :
    Except PartsFault Declared :=
  match kind with
  | .ofVariables => match withKeywords? parts with
    | some items => .ok (.ofVariables items)
    | none => .error .keywordMismatch
  | .definition kind => match withoutKeywords? parts with
    | some items => .ok (.definitions kind items)
    | none => .error .keywordMismatch

end Declared

inductive Export where
  | list (span : Span) (bindings : List Binding)
  | declaration (span : Span) (isDefault : Bool) (declared : Declared)
deriving DecidableEq

namespace Export

def span : Export → Span
  | .list span _ => span
  | .declaration span _ _ => span

end Export

structure Graph where
  imports : List Import
  exports : List Export
  reexports : List Reexport
deriving DecidableEq

namespace Graph

def empty : Graph := ⟨[], [], []⟩

def append (g h : Graph) : Graph :=
  ⟨g.imports ++ h.imports, g.exports ++ h.exports, g.reexports ++ h.reexports⟩

def spans (g : Graph) : List Span :=
  g.imports.map Import.span ++ g.exports.map Export.span ++ g.reexports.map Reexport.span

end Graph

end Linkage
