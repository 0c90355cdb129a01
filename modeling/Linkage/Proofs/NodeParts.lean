import Linkage.Graph

set_option autoImplicit false

namespace Linkage

namespace Import

def whole? (i : Import) : Option Text :=
  match i.list with
  | .whole name => some name
  | .nothing | .named _ => none

def named? (i : Import) : Option (List Binding) :=
  match i.list with
  | .named bindings => some bindings
  | .nothing | .whole _ => none

theorem of_parts_iff (module : ModuleSpecifier) (span : Span) (default whole : Option Text)
    (named : Option (List Binding)) (node : Import) :
    ofParts module span default whole named = .ok node ↔
      ¬ (whole.isSome ∧ named.isSome) ∧ node.module = module ∧ node.span = span ∧ node.default = default ∧
        node.whole? = whole ∧ node.named? = named := by
  obtain ⟨ownModule, ownSpan, ownDefault, list⟩ := node
  constructor
  · intro made
    cases whole <;> cases named <;> cases made <;> simp [whole?, named?]
  · rintro ⟨_, rfl, rfl, rfl, rfl, rfl⟩
    cases list <;> rfl

theorem of_parts_error_iff (module : ModuleSpecifier) (span : Span) (default whole : Option Text)
    (named : Option (List Binding)) (fault : PartsFault) :
    ofParts module span default whole named = .error fault ↔ fault = .wholeAndNamed ∧ whole.isSome ∧ named.isSome := by
  constructor
  · intro failed
    cases whole <;> cases named <;> cases failed
    exact ⟨rfl, rfl, rfl⟩
  · rintro ⟨rfl, someWhole, someNamed⟩
    obtain ⟨name, rfl⟩ := Option.isSome_iff_exists.mp someWhole
    obtain ⟨bindings, rfl⟩ := Option.isSome_iff_exists.mp someNamed
    rfl

end Import

namespace Reexport

def named? (r : Reexport) : Option (List Binding) :=
  match r.forwarded with
  | .named bindings => some bindings
  | .whole _ => none

def isWhole (r : Reexport) : Bool :=
  match r.forwarded with
  | .named _ => false
  | .whole _ => true

def newName? (r : Reexport) : Option Text :=
  match r.forwarded with
  | .named _ => none
  | .whole newName => newName

end Reexport

namespace Declared

def parts : Declared → List (Declaration × Option VariableKeyword)
  | .ofVariables items => items.map fun item => (item.1, some item.2)
  | .definitions _ items => items.map fun item => (item, none)

theorem with_keywords_iff (parts : List (Declaration × Option VariableKeyword))
    (items : List (Declaration × VariableKeyword)) :
    withKeywords? parts = some items ↔ parts = items.map fun item => (item.1, some item.2) := by
  induction parts generalizing items with
  | nil => cases items <;> simp [withKeywords?]
  | cons part rest ih =>
      obtain ⟨declaration, _ | keyword⟩ := part
      · cases items <;> simp [withKeywords?]
      · cases items with
        | nil => simp [withKeywords?]
        | cons item items =>
            simp only [withKeywords?, Option.map_eq_some_iff, List.map_cons, List.cons.injEq, ih]
            constructor
            · rintro ⟨_, kept, rfl, rfl⟩
              exact ⟨rfl, kept⟩
            · rintro ⟨same, kept⟩
              cases same
              exact ⟨items, kept, rfl, rfl⟩

theorem without_keywords_iff (parts : List (Declaration × Option VariableKeyword)) (items : List Declaration) :
    withoutKeywords? parts = some items ↔ parts = items.map fun item => (item, none) := by
  induction parts generalizing items with
  | nil => cases items <;> simp [withoutKeywords?]
  | cons part rest ih =>
      obtain ⟨declaration, _ | keyword⟩ := part
      · cases items with
        | nil => simp [withoutKeywords?]
        | cons item items =>
            simp only [withoutKeywords?, Option.map_eq_some_iff, List.map_cons, List.cons.injEq, ih]
            constructor
            · rintro ⟨_, kept, rfl, rfl⟩
              exact ⟨rfl, kept⟩
            · rintro ⟨same, kept⟩
              cases same
              exact ⟨items, kept, rfl, rfl⟩
      · cases items <;> simp [withoutKeywords?]

-- Declarations show all that was checked, so the parts that pass are the parts of some declarations.
theorem of_parts_iff (kind : DeclarationKind) (parts : List (Declaration × Option VariableKeyword))
    (declared : Declared) : ofParts kind parts = .ok declared ↔ declared.kind = kind ∧ parts = declared.parts := by
  constructor
  · intro made
    cases kind with
    | ofVariables =>
        cases found : withKeywords? parts with
        | none =>
            simp only [ofParts, found] at made
            cases made
        | some items =>
            simp only [ofParts, found] at made
            cases made
            exact ⟨rfl, (with_keywords_iff parts items).mp found⟩
    | definition kind =>
        cases found : withoutKeywords? parts with
        | none =>
            simp only [ofParts, found] at made
            cases made
        | some items =>
            simp only [ofParts, found] at made
            cases made
            exact ⟨rfl, (without_keywords_iff parts items).mp found⟩
  · rintro ⟨rfl, shown⟩
    cases declared with
    | ofVariables items =>
        have found : withKeywords? parts = some items := (with_keywords_iff parts items).mpr shown
        simp only [Declared.kind, ofParts, found]
    | definitions kind items =>
        have found : withoutKeywords? parts = some items := (without_keywords_iff parts items).mpr shown
        simp only [Declared.kind, ofParts, found]

end Declared

end Linkage
