import Linkage.Graph
import Linkage.Json

set_option autoImplicit false

namespace Linkage

def optionalMember (key : String) : Option Text → List (String × Json)
  | none => []
  | some t => [(key, .str t)]

namespace Span

def toJson (s : Span) : Json := .ofPairs [("start", .int s.start), ("end", .int s.stop)]

end Span

namespace ModuleSpecifier

def toJson (m : ModuleSpecifier) : Json :=
  .ofPairs [("specifier", .str m.target), ("is_package_id", .bool m.isPackage),
    ("prefix", match m.transport with
      | none => .null
      | some tag => .str tag)]

end ModuleSpecifier

namespace Binding

def toImportJson (b : Binding) : Json :=
  .ofPairs (("local_id", .str b.localName) :: optionalMember "symbol_id" b.symbol)

def toExportJson (b : Binding) : Json :=
  .ofPairs (("name", .str b.name) :: optionalMember "alias" b.newName)

end Binding

namespace Import

def toJson (i : Import) : Json :=
  let list := match i.list with
    | .nothing => []
    | .whole name => [("namespace", Json.str name)]
    | .named bindings => [("named", Json.arr (bindings.map Binding.toImportJson))]
  .ofPairs ([("type", .ofString "import"), ("module_specifier", i.module.toJson),
    ("span", i.span.toJson)] ++ optionalMember "default" i.default ++ list)

end Import

namespace Reexport

def toJson (r : Reexport) : Json :=
  let forwarded := match r.forwarded with
    | .named bindings => [("named", Json.arr (bindings.map Binding.toExportJson))]
    | .whole newName => ("namespace", Json.bool true) :: optionalMember "namespace_alias" newName
  .ofPairs ([("type", .ofString "reexport"), ("module_specifier", r.module.toJson),
    ("span", r.span.toJson)] ++ forwarded)

end Reexport

namespace Declaration

def members (d : Declaration) : List (String × Json) :=
  ("name", .str d.name) :: optionalMember "alias" d.newName

end Declaration

namespace Declared

def toJson : Declared → Json
  | .ofVariables items => .arr (items.map fun (d, keyword) =>
      .ofPairs (d.members ++ [("var_kind", .ofString keyword.label)]))
  | .definitions _ items => .arr (items.map fun d => .ofPairs d.members)

end Declared

namespace Export

def toJson : Export → Json
  | .list span bindings =>
    .ofPairs [("type", .ofString "export_list"), ("span", span.toJson),
      ("named", .arr (bindings.map Binding.toExportJson))]
  | .declaration span isDefault declared =>
    .ofPairs [("type", .ofString "export_declaration"), ("span", span.toJson),
      ("kind", .ofString declared.kind.label), ("is_default", .bool isDefault),
      ("declarations", declared.toJson)]

end Export

namespace Graph

def toJson (g : Graph) : Json :=
  .ofPairs [("imports", .arr (g.imports.map Import.toJson)),
    ("exports", .arr (g.exports.map Export.toJson)),
    ("reexports", .arr (g.reexports.map Reexport.toJson))]

end Graph

end Linkage
