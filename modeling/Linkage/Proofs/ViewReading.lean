import Linkage.Graph.View
import Linkage.Proofs.NodeParts
import Mathlib.Data.List.Forall2

set_option autoImplicit false

namespace Linkage

namespace Text

theorem of_string_inj (a b : String) : ofString a = ofString b ↔ a = b := by
  constructor
  · intro same
    have letters : a.toList = b.toList :=
      List.map_injective_iff.mpr (fun _ _ equal => CodePoint.scalar.inj equal) same
    exact String.toList_inj.mp letters
  · intro same
    rw [same]

end Text

namespace Json

-- Equal values. Objects are equal if they hold equal values under the same keys.
inductive Same : Json → Json → Prop where
  | null : Same .null .null
  | bool (b : Bool) : Same (.bool b) (.bool b)
  | int (n : Int) : Same (.int n) (.int n)
  | float (x : Binary64) : Same (.float x) (.float x)
  | str (t : Text) : Same (.str t) (.str t)
  | arr (items others : List Json) (each : List.Forall₂ Same items others) : Same (.arr items) (.arr others)
  | obj (members others : Members) (each : ∀ key, Option.Rel Same (members.get? key) (others.get? key)) :
      Same (.obj members) (.obj others)

mutual
theorem same_refl (v : Json) : Same v v := by
  cases v with
  | null => exact .null
  | bool b => exact .bool b
  | int n => exact .int n
  | float x => exact .float x
  | str t => exact .str t
  | arr items => exact .arr items items (same_items items)
  | obj members => exact .obj members members (same_members members)
theorem same_items (items : List Json) : List.Forall₂ Same items items := by
  cases items with
  | nil => exact .nil
  | cons item rest => exact .cons (same_refl item) (same_items rest)
theorem same_members (members : List (Text × Json)) (key : Text) :
    Option.Rel Same (Members.get? key members) (Members.get? key members) := by
  cases members with
  | nil => exact .none
  | cons first rest =>
      obtain ⟨own, value⟩ := first
      rw [Members.get?]
      split
      · exact .some (same_refl value)
      · exact same_members rest key
end

def member? (key : String) : Json → Option Json
  | .obj members => Members.get? (Text.ofString key) members
  | _ => none

def text? : Json → Option Text
  | .str t => some t
  | _ => none

def flag? : Json → Option Bool
  | .bool b => some b
  | _ => none

def integer? : Json → Option Int
  | .int n => some n
  | _ => none

def nullable? : Json → Option (Option Text)
  | .null => some none
  | .str t => some (some t)
  | _ => none

section Readers

variable {α : Type}

def field? (key : String) (read : Json → Option α) (v : Json) : Option α := (v.member? key).bind read

def optional? (key : String) (read : Json → Option α) (v : Json) : Option (Option α) :=
  match v.member? key with
  | none => some none
  | some part => (read part).map some

def list? (read : Json → Option α) : Json → Option (List α)
  | .arr items => items.mapM read
  | _ => none

def labelled? (all : List α) (label : α → String) (v : Json) : Option α :=
  v.text?.bind fun t => all.find? fun a => Text.ofString (label a) = t

def Fair (read : Json → Option α) : Prop := ∀ v w, Same v w → read v = read w

theorem member_same (key : String) (v w : Json) (same : Same v w) :
    Option.Rel Same (v.member? key) (w.member? key) := by
  cases same with
  | obj members others each => exact each (Text.ofString key)
  | null => exact .none
  | bool b => exact .none
  | int n => exact .none
  | float x => exact .none
  | str t => exact .none
  | arr items others each => exact .none

theorem text_fair : Fair text? := by
  intro v w same
  cases same <;> rfl

theorem flag_fair : Fair flag? := by
  intro v w same
  cases same <;> rfl

theorem integer_fair : Fair integer? := by
  intro v w same
  cases same <;> rfl

theorem nullable_fair : Fair nullable? := by
  intro v w same
  cases same <;> rfl

theorem field_fair (key : String) (read : Json → Option α) (fair : Fair read) : Fair (field? key read) := by
  intro v w same
  have parts := member_same key v w same
  rw [field?, field?]
  generalize v.member? key = left at parts ⊢
  generalize w.member? key = right at parts ⊢
  cases parts with
  | none => rfl
  | some part => exact fair _ _ part

theorem optional_fair (key : String) (read : Json → Option α) (fair : Fair read) : Fair (optional? key read) := by
  intro v w same
  have parts := member_same key v w same
  rw [optional?, optional?]
  generalize v.member? key = left at parts ⊢
  generalize w.member? key = right at parts ⊢
  cases parts with
  | none => rfl
  | some part => exact congrArg (Option.map some) (fair _ _ part)

theorem items_fair (read : Json → Option α) (fair : Fair read) (items others : List Json)
    (each : List.Forall₂ Same items others) : items.mapM read = others.mapM read := by
  induction each with
  | nil => rfl
  | cons first rest ih => rw [List.mapM_cons, List.mapM_cons, fair _ _ first, ih]

theorem list_fair (read : Json → Option α) (fair : Fair read) : Fair (list? read) := by
  intro v w same
  cases same with
  | arr items others each => exact items_fair read fair items others each
  | null => rfl
  | bool b => rfl
  | int n => rfl
  | float x => rfl
  | str t => rfl
  | obj members others each => rfl

theorem labelled_fair (all : List α) (label : α → String) : Fair (labelled? all label) := by
  intro v w same
  rw [labelled?, labelled?, text_fair v w same]

theorem list_view (read : Json → Option α) (view : α → Json) (back : ∀ a, read (view a) = some a) (all : List α) :
    list? read (.arr (all.map view)) = some all := by
  rw [list?]
  induction all with
  | nil => rfl
  | cons a rest ih =>
      rw [List.map_cons, List.mapM_cons, back, ih]
      rfl

end Readers

@[simp] theorem member_of_nothing (key : String) : member? key (ofPairs []) = none := rfl

@[simp] theorem member_of_pairs (key own : String) (value : Json) (rest : List (String × Json)) :
    member? key (ofPairs ((own, value) :: rest)) = if own = key then some value else member? key (ofPairs rest) := by
  simp only [ofPairs, member?, List.map_cons, Members.get?, Text.of_string_inj]

@[simp] theorem text_str (t : Text) : text? (.str t) = some t := rfl

@[simp] theorem text_of_string (s : String) : text? (ofString s) = some (Text.ofString s) := rfl

@[simp] theorem flag_bool (b : Bool) : flag? (.bool b) = some b := rfl

@[simp] theorem integer_int (n : Int) : integer? (.int n) = some n := rfl

@[simp] theorem nullable_null : nullable? .null = some none := rfl

@[simp] theorem nullable_str (t : Text) : nullable? (.str t) = some (some t) := rfl

attribute [simp] field? optional?

end Json

open Json (Fair field? optional? list? labelled? text? flag? integer? nullable?)

namespace Span

def ofJson? (v : Json) : Option Span := do
  let start ← field? "start" integer? v
  let stop ← field? "end" integer? v
  return ⟨start, stop⟩

theorem of_json_fair : Fair ofJson? := by
  intro v w same
  rw [ofJson?, ofJson?, Json.field_fair _ _ Json.integer_fair v w same, Json.field_fair _ _ Json.integer_fair v w same]

theorem of_json_view (s : Span) : ofJson? s.toJson = some s := by
  simp [ofJson?, toJson]

end Span

namespace ModuleSpecifier

def ofJson? (v : Json) : Option ModuleSpecifier := do
  let target ← field? "specifier" text? v
  let isPackage ← field? "is_package_id" flag? v
  let transport ← field? "prefix" nullable? v
  return ⟨target, isPackage, transport⟩

theorem of_json_fair : Fair ofJson? := by
  intro v w same
  rw [ofJson?, ofJson?, Json.field_fair _ _ Json.text_fair v w same, Json.field_fair _ _ Json.flag_fair v w same,
    Json.field_fair _ _ Json.nullable_fair v w same]

theorem of_json_view (m : ModuleSpecifier) : ofJson? m.toJson = some m := by
  obtain ⟨target, isPackage, transport⟩ := m
  cases transport <;> simp [ofJson?, toJson]

end ModuleSpecifier

namespace Binding

-- An import entry shows the name that it binds; the name that it has in its module shows only if the two differ.
def ofImportJson? (v : Json) : Option Binding := do
  let shown ← field? "local_id" text? v
  let symbol ← optional? "symbol_id" text? v
  match symbol with
  | none => return ⟨shown, none⟩
  | some name => return ⟨name, some shown⟩

def ofExportJson? (v : Json) : Option Binding := do
  let name ← field? "name" text? v
  let newName ← optional? "alias" text? v
  return ⟨name, newName⟩

theorem of_import_json_fair : Fair ofImportJson? := by
  intro v w same
  rw [ofImportJson?, ofImportJson?, Json.field_fair _ _ Json.text_fair v w same,
    Json.optional_fair _ _ Json.text_fair v w same]

theorem of_export_json_fair : Fair ofExportJson? := by
  intro v w same
  rw [ofExportJson?, ofExportJson?, Json.field_fair _ _ Json.text_fair v w same,
    Json.optional_fair _ _ Json.text_fair v w same]

theorem of_import_json_view (b : Binding) : ofImportJson? b.toImportJson = some b := by
  obtain ⟨name, newName⟩ := b
  cases newName <;> simp [ofImportJson?, toImportJson, localName, symbol, optionalMember]

theorem of_export_json_view (b : Binding) : ofExportJson? b.toExportJson = some b := by
  obtain ⟨name, newName⟩ := b
  cases newName <;> simp [ofExportJson?, toExportJson, optionalMember]

end Binding

namespace Import

def ofJson? (v : Json) : Option Import := do
  let module ← field? "module_specifier" ModuleSpecifier.ofJson? v
  let span ← field? "span" Span.ofJson? v
  let default ← optional? "default" text? v
  let whole ← optional? "namespace" text? v
  let named ← optional? "named" (list? Binding.ofImportJson?) v
  (ofParts module span default whole named).toOption

theorem of_json_fair : Fair ofJson? := by
  intro v w same
  have bindings := Json.list_fair _ Binding.of_import_json_fair
  rw [ofJson?, ofJson?, Json.field_fair _ _ ModuleSpecifier.of_json_fair v w same,
    Json.field_fair _ _ Span.of_json_fair v w same, Json.optional_fair "default" _ Json.text_fair v w same,
    Json.optional_fair "namespace" _ Json.text_fair v w same, Json.optional_fair _ _ bindings v w same]

theorem of_json_view (i : Import) : ofJson? i.toJson = some i := by
  obtain ⟨module, span, default, list⟩ := i
  have bindings := Json.list_view _ _ Binding.of_import_json_view
  cases default <;> cases list <;>
    simp [ofJson?, toJson, optionalMember, ModuleSpecifier.of_json_view, Span.of_json_view, bindings, ofParts,
      Except.toOption]

end Import

namespace Reexport

def ofJson? (v : Json) : Option Reexport := do
  let module ← field? "module_specifier" ModuleSpecifier.ofJson? v
  let span ← field? "span" Span.ofJson? v
  let named ← optional? "named" (list? Binding.ofExportJson?) v
  let whole ← optional? "namespace" flag? v
  let newName ← optional? "namespace_alias" text? v
  (ofParts module span named (whole.getD false) newName).toOption

theorem of_json_fair : Fair ofJson? := by
  intro v w same
  have bindings := Json.list_fair _ Binding.of_export_json_fair
  rw [ofJson?, ofJson?, Json.field_fair _ _ ModuleSpecifier.of_json_fair v w same,
    Json.field_fair _ _ Span.of_json_fair v w same, Json.optional_fair _ _ bindings v w same,
    Json.optional_fair _ _ Json.flag_fair v w same, Json.optional_fair _ _ Json.text_fair v w same]

theorem of_json_view (r : Reexport) : ofJson? r.toJson = some r := by
  obtain ⟨module, span, forwarded⟩ := r
  have bindings := Json.list_view _ _ Binding.of_export_json_view
  cases forwarded with
  | named entries =>
      simp [ofJson?, toJson, ModuleSpecifier.of_json_view, Span.of_json_view, bindings, ofParts, Except.toOption]
  | whole newName =>
      cases newName <;>
        simp [ofJson?, toJson, optionalMember, ModuleSpecifier.of_json_view, Span.of_json_view, ofParts,
          Except.toOption]

end Reexport

namespace VariableKeyword

def ofJson? : Json → Option VariableKeyword := labelled? all label

theorem of_json_fair : Fair ofJson? := Json.labelled_fair all label

theorem of_json_label (keyword : VariableKeyword) : ofJson? (.ofString keyword.label) = some keyword := by
  cases keyword <;> rfl

end VariableKeyword

namespace DeclarationKind

def ofJson? : Json → Option DeclarationKind := labelled? all label

theorem of_json_fair : Fair ofJson? := Json.labelled_fair all label

theorem of_json_label (kind : DeclarationKind) : ofJson? (.ofString kind.label) = some kind := by
  cases kind with
  | ofVariables => rfl
  | definition kind => cases kind <;> rfl

end DeclarationKind

namespace Declared

def partView (part : Declaration × Option VariableKeyword) : Json :=
  .ofPairs (part.1.members ++ part.2.toList.map fun keyword => ("var_kind", .ofString keyword.label))

def partOfJson? (v : Json) : Option (Declaration × Option VariableKeyword) := do
  let name ← field? "name" text? v
  let newName ← optional? "alias" text? v
  let keyword ← optional? "var_kind" VariableKeyword.ofJson? v
  return (⟨name, newName⟩, keyword)

theorem part_of_json_fair : Fair partOfJson? := by
  intro v w same
  rw [partOfJson?, partOfJson?, Json.field_fair _ _ Json.text_fair v w same,
    Json.optional_fair _ _ Json.text_fair v w same, Json.optional_fair _ _ VariableKeyword.of_json_fair v w same]

theorem part_of_json_view (part : Declaration × Option VariableKeyword) : partOfJson? (partView part) = some part := by
  obtain ⟨⟨name, newName⟩, keyword⟩ := part
  cases newName <;> cases keyword <;>
    simp [partOfJson?, partView, Declaration.members, optionalMember, VariableKeyword.of_json_label]

theorem to_json_parts (declared : Declared) : declared.toJson = .arr (declared.parts.map partView) := by
  cases declared with
  | ofVariables items => simp [toJson, parts, partView]
  | definitions kind items => simp [toJson, parts, partView]

end Declared

namespace Export

def ofJson? (v : Json) : Option Export := do
  let type ← field? "type" text? v
  let span ← field? "span" Span.ofJson? v
  if type = Text.ofString "export_list" then
    let bindings ← field? "named" (list? Binding.ofExportJson?) v
    return .list span bindings
  else
    let kind ← field? "kind" DeclarationKind.ofJson? v
    let isDefault ← field? "is_default" flag? v
    let parts ← field? "declarations" (list? Declared.partOfJson?) v
    let declared ← (Declared.ofParts kind parts).toOption
    return .declaration span isDefault declared

theorem of_json_fair : Fair ofJson? := by
  intro v w same
  have bindings := Json.list_fair _ Binding.of_export_json_fair
  have parts := Json.list_fair _ Declared.part_of_json_fair
  rw [ofJson?, ofJson?, Json.field_fair _ _ Json.text_fair v w same, Json.field_fair _ _ Span.of_json_fair v w same,
    Json.field_fair _ _ bindings v w same, Json.field_fair _ _ DeclarationKind.of_json_fair v w same,
    Json.field_fair _ _ Json.flag_fair v w same, Json.field_fair _ _ parts v w same]

theorem of_json_view (e : Export) : ofJson? e.toJson = some e := by
  cases e with
  | list span entries =>
      have bindings := Json.list_view _ _ Binding.of_export_json_view
      simp [ofJson?, toJson, Span.of_json_view, bindings]
  | declaration span isDefault declared =>
      have parts := Json.list_view _ _ Declared.part_of_json_view declared.parts
      have accepted := (Declared.of_parts_iff declared.kind declared.parts declared).mpr ⟨rfl, rfl⟩
      simp [ofJson?, toJson, Declared.to_json_parts, Span.of_json_view, DeclarationKind.of_json_label, parts, accepted,
        Except.toOption, Text.of_string_inj]

end Export

namespace Graph

def ofJson? (v : Json) : Option Graph := do
  let imports ← field? "imports" (list? Import.ofJson?) v
  let exports ← field? "exports" (list? Export.ofJson?) v
  let reexports ← field? "reexports" (list? Reexport.ofJson?) v
  return ⟨imports, exports, reexports⟩

theorem of_json_fair : Fair ofJson? := by
  intro v w same
  rw [ofJson?, ofJson?, Json.field_fair _ _ (Json.list_fair _ Import.of_json_fair) v w same,
    Json.field_fair _ _ (Json.list_fair _ Export.of_json_fair) v w same,
    Json.field_fair _ _ (Json.list_fair _ Reexport.of_json_fair) v w same]

theorem of_json_view (g : Graph) : ofJson? g.toJson = some g := by
  have imports := Json.list_view _ _ Import.of_json_view g.imports
  have exports := Json.list_view _ _ Export.of_json_view g.exports
  have reexports := Json.list_view _ _ Reexport.of_json_view g.reexports
  simp [ofJson?, toJson, imports, exports, reexports]

theorem view_loses_nothing :
    (∀ (g : Graph) (v : Json), Json.Same g.toJson v → ofJson? v = some g) ∧
      ∀ g h : Graph, Json.Same g.toJson h.toJson → g = h := by
  have recovered (g : Graph) (v : Json) (same : Json.Same g.toJson v) : ofJson? v = some g :=
    (of_json_fair g.toJson v same).symm.trans (of_json_view g)
  refine ⟨recovered, ?_⟩
  intro g h same
  exact Option.some.inj ((recovered g h.toJson same).symm.trans (of_json_view h))

def sparse : Graph :=
  ⟨[⟨⟨Text.ofString "m", true, none⟩, ⟨0, 9⟩, some [], .named [⟨Text.ofString "a", some (Text.ofString "b")⟩]⟩],
    [.declaration ⟨9, 4⟩ true (.definitions .generator [])], []⟩

def sparseShuffled : Json :=
  .ofPairs [("reexports", .arr []), ("exports", .arr (sparse.exports.map Export.toJson)),
    ("imports", .arr (sparse.imports.map Import.toJson))]

theorem sparse_same : Json.Same sparse.toJson sparseShuffled := by
  refine .obj _ _ ?_
  intro key
  have alike : Members.get? key
      [(Text.ofString "imports", .arr (sparse.imports.map Import.toJson)),
        (Text.ofString "exports", .arr (sparse.exports.map Export.toJson)), (Text.ofString "reexports", .arr [])] =
      Members.get? key
        [(Text.ofString "reexports", .arr []), (Text.ofString "exports", .arr (sparse.exports.map Export.toJson)),
          (Text.ofString "imports", .arr (sparse.imports.map Import.toJson))] := by
    simp only [Members.get?]
    by_cases first : Text.ofString "imports" = key
    · rw [← first]
      simp [Text.of_string_inj]
    · by_cases second : Text.ofString "exports" = key
      · rw [← second]
        simp [Text.of_string_inj]
      · simp [first, second]
  exact alike ▸ Json.same_members _ key

theorem view_loses_nothing_shuffled : Json.Same sparse.toJson sparseShuffled ∧ ofJson? sparseShuffled = some sparse :=
  ⟨sparse_same, view_loses_nothing.1 sparse sparseShuffled sparse_same⟩

end Graph

end Linkage
