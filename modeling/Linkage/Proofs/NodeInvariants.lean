import Linkage.Proofs.StatementFailure
import Linkage.Proofs.StatementYield

set_option autoImplicit false

namespace Linkage

namespace Graph

theorem mem_exports (items : List Item) (node : Export) (member : node ∈ (ofItems items).exports) :
    .exporting node ∈ items := by
  obtain ⟨item, listed, view⟩ := List.mem_filterMap.mp member
  cases item <;> cases view
  exact listed

end Graph

namespace Item

def Sound : Item → Prop
  | .importing node => ¬ (node.whole?.isSome ∧ node.named?.isSome)
  | .reexporting node => (node.named?.isSome ↔ node.isWhole = false) ∧ (node.newName?.isSome → node.isWhole = true)
  | .exporting node => node.Uniform

def span : Item → Span
  | .importing node => node.span
  | .reexporting node => node.span
  | .exporting node => node.span

end Item

namespace Classification

theorem yields_sound_node (ctx : Context) (n : Node) (item : Item) (yields : Yields ctx n item) :
    item.Sound ∧ item.span = n.span := by
  cases yields with
  | importing literal raw module node kind sound required source cooked resolved made =>
      obtain ⟨single, _, place⟩ := import_node_made ctx n module node made
      exact ⟨single, place⟩
  | reexporting literal raw module node kind sound clear source cooked resolved made =>
      obtain ⟨one, whole, _, place⟩ := reexport_node_made ctx n.span _ module node made
      exact ⟨⟨one, whole⟩, place⟩
  | exporting node kind sound clear source made =>
      obtain ⟨place, uniform⟩ := (local_export_gives ctx n.span _).holds _ _ _ made node rfl
      exact ⟨uniform, place⟩

theorem item_sound (ctx : Context) (nodes : List Node) (item : Item) (member : item ∈ nodes.filterMap (item? ctx)) :
    ∃ n ∈ nodes, item? ctx n = some item ∧ item.Sound ∧ item.span = n.span := by
  obtain ⟨n, listed, yielded⟩ := List.mem_filterMap.mp member
  exact ⟨n, listed, yielded, yields_sound_node ctx n item (item_yields ctx n item yielded)⟩

-- Loose parts are a failure only when an import binds twice, unless the resolution says so itself.
theorem fails_parts (ctx : Context) (n : Node) (fault : PartsFault) (fails : Fails ctx n (.parts fault)) :
    fault = .wholeAndNamed ∧ n.kind = "import_statement" ∧ BindsTwice n ∨
      ∃ raw, (ctx.resolve raw).outcome = .error (.parts fault) := by
  cases fails with
  | undecodable failure cause =>
      obtain ⟨_, _, _, _, _, _, escape⟩ := cause
      cases escape
  | unresolved literal raw failure source cooked cause probes => exact Or.inr ⟨raw, cause⟩
  | clash kind both => exact Or.inl ⟨rfl, kind, both⟩

theorem classify_node_invariants (resolve : Resolution) (source : Bytes) (file directory : Text) (nodes : List Node) :
    (∀ failure, (classify resolve source file directory nodes).outcome = .error failure →
      ∃ n ∈ nodes, Fails (context resolve source file directory) n failure) ∧
    (∀ fault, (classify resolve source file directory nodes).outcome = .error (.parts fault) →
      (fault = .wholeAndNamed ∧ ∃ n ∈ nodes, n.kind = "import_statement" ∧ BindsTwice n) ∨
        ∃ raw, (resolve raw directory (some file)).outcome = .error (.parts fault)) ∧
    ∀ graph, (classify resolve source file directory nodes).outcome = .ok graph →
      (∀ node ∈ graph.imports, ¬ (node.whole?.isSome ∧ node.named?.isSome) ∧
        ∃ n ∈ nodes, item? (context resolve source file directory) n = some (.importing node) ∧ node.span = n.span) ∧
      (∀ node ∈ graph.reexports,
        ((node.named?.isSome ↔ node.isWhole = false) ∧ (node.newName?.isSome → node.isWhole = true)) ∧
        ∃ n ∈ nodes, item? (context resolve source file directory) n = some (.reexporting node) ∧ node.span = n.span) ∧
      (∀ node ∈ graph.exports, node.Uniform ∧
        ∃ n ∈ nodes, item? (context resolve source file directory) n = some (.exporting node) ∧ node.span = n.span) := by
  have causes : ∀ failure, (classify resolve source file directory nodes).outcome = .error failure →
      ∃ n ∈ nodes, Fails (context resolve source file directory) n failure := by
    intro failure failed
    obtain ⟨before, n, after, split, _, broken, _⟩ :=
      statements_fail (context resolve source file directory) nodes failure failed
    exact ⟨n, by rw [split]; simp, statement_fails _ n failure broken⟩
  refine ⟨causes, ?_, ?_⟩
  · intro fault failed
    obtain ⟨n, listed, fails⟩ := causes _ failed
    rcases fails_parts _ n fault fails with ⟨clash, kind, both⟩ | own
    · exact Or.inl ⟨clash, n, listed, kind, both⟩
    · exact Or.inr own
  · intro graph done
    have whole := statements_graph (context resolve source file directory) nodes graph done
    subst whole
    refine ⟨?_, ?_, ?_⟩
    · intro node member
      obtain ⟨n, listed, yielded, sound, place⟩ := item_sound _ nodes _ (Graph.mem_imports _ node member)
      exact ⟨sound, n, listed, yielded, place⟩
    · intro node member
      obtain ⟨n, listed, yielded, sound, place⟩ := item_sound _ nodes _ (Graph.mem_reexports _ node member)
      exact ⟨sound, n, listed, yielded, place⟩
    · intro node member
      obtain ⟨n, listed, yielded, sound, place⟩ := item_sound _ nodes _ (Graph.mem_exports _ node member)
      exact ⟨sound, n, listed, yielded, place⟩

-- `import*as a,{}from'b'`
def clashingSource : Bytes :=
  [105, 109, 112, 111, 114, 116, 42, 97, 115, 32, 97, 44, 123, 125, 102, 114, 111, 109, 39, 98, 39]

def clashingImport : Node :=
  ⟨"import_statement", 0, 21, true, none, false,
    [⟨"import_clause", 6, 14, true, none, false,
      [⟨"namespace_import", 6, 11, true, none, false, [⟨"identifier", 10, 11, true, none, false, []⟩]⟩,
        ⟨"named_imports", 12, 14, true, none, false, []⟩]⟩,
      ⟨"string", 18, 21, true, some "source", false, [⟨"string_fragment", 19, 20, true, none, false, []⟩]⟩]⟩

example : classify (Resolver.standard.resolve (Disk.ofLists [] [])) clashingSource (Text.ofString "/d/m.js")
    (Text.ofString "/d") [clashingImport] = ⟨[], .error (.parts .wholeAndNamed)⟩ := rfl

end Classification

end Linkage
