import Linkage.Proofs.NormalPath
import Linkage.Proofs.Resolution
import Linkage.Proofs.StatementYield

set_option autoImplicit false

namespace Linkage

namespace Resolver

theorem base_names (specifier directory : Text) (absolute : directory.head? = some Path.slash) :
    ∃ p : Path, base specifier directory = p.text ∧ p.root ≠ .none ∧ ∀ part ∈ p.parts, Path.IsName part := by
  have rooted := Path.root_of_rooted _ (Path.join_text_rooted directory specifier absolute)
  refine ⟨(Path.ofText (Path.joinText directory specifier)).collapse, rfl, rooted, ?_⟩
  intro part member
  have absolutePath : (Path.ofText (Path.joinText directory specifier)).isAbsolute = true := decide_eq_true rooted
  exact ⟨Path.collapse_clean _ (Path.of_text_parts _) part member, Path.collapse_rooted _ absolutePath part member⟩

theorem index_name (extension : Text) (free : Path.slash ∉ extension) :
    Path.IsName (Text.ofString "index" ++ extension) := by
  have spelled : Text.ofString "index" = [.scalar 'i', .scalar 'n', .scalar 'd', .scalar 'e', .scalar 'x'] := by decide
  rw [spelled]
  refine ⟨⟨by simp, by simp [Path.dot], ?_⟩, by simp [Path.dotDot]⟩
  simpa [Path.slash] using free

theorem candidates_normal (extensions : List Text) (specifier directory path : Text)
    (absolute : directory.head? = some Path.slash)
    (plain : ∀ extension ∈ extensions, Path.slash ∉ extension ∧ extension ≠ Path.dotDot)
    (member : path ∈ candidates extensions specifier directory) : Path.NormalAbsolute path := by
  obtain ⟨p, text, rooted, names⟩ := base_names specifier directory absolute
  simp only [candidates, text] at member
  obtain ⟨t, member, same⟩ := List.mem_map.mp member
  have spelled : Path.Spelled p.root t := by
    rcases List.mem_append.mp member with early | index
    · rcases List.mem_cons.mp early with bare | extended
      · rw [bare]
        exact Path.spelled_names p rooted names
      · obtain ⟨extension, listed, form⟩ := List.mem_map.mp extended
        rw [← form]
        exact Path.spelled_tail p extension rooted names (plain extension listed).1 (plain extension listed).2
    · obtain ⟨extension, listed, form⟩ := List.mem_map.mp index
      rw [← form]
      exact Path.spelled_child p _ rooted names (index_name extension (plain extension listed).1)
  rw [← same]
  exact Path.spelled_normal p.root t rooted spelled

-- What an edge may be, for a literal with the value `raw`: the package id that is written behind
-- a listed tag, or a file that the disk has.
def SoundEdge (r : Resolver) (disk : Disk) (raw : Text) (m : ModuleSpecifier) : Prop :=
  (∀ tag, m.transport = some tag → tag ∈ r.transports) ∧
    ((m.isPackage = true ∧ m.target.head? ≠ some (.scalar '.') ∧ m.transport.getD [] ++ m.target = raw) ∨
      (m.isPackage = false ∧ disk m.target = .ok true ∧ Path.NormalAbsolute m.target))

theorem split_transport_listed (tags : List Text) (raw tag : Text) (chosen : (splitTransport tags raw).1 = some tag) :
    tag ∈ tags := by
  have first := split_transport_first tags raw
  rw [chosen] at first
  obtain ⟨before, after, split, _⟩ := first
  simp [split]

theorem resolve_sound (r : Resolver) (disk : Disk) (raw directory : Text) (importer : Option Text) (m : ModuleSpecifier)
    (absolute : directory.head? = some Path.slash)
    (plain : ∀ extension ∈ r.extensions, Path.slash ∉ extension ∧ extension ≠ Path.dotDot)
    (done : (r.resolve disk raw directory importer).outcome = .ok m) : SoundEdge r disk raw m := by
  cases relative : isRelative (splitTransport r.transports raw).2 with
  | false =>
      rw [resolve_package r disk raw directory importer relative] at done
      cases done
      refine ⟨split_transport_listed r.transports raw, Or.inl ⟨rfl, ?_, split_transport_append r.transports raw⟩⟩
      simpa [isRelative] using relative
  | true =>
      rw [resolve_relative r disk raw directory importer relative] at done
      obtain ⟨found, search, result⟩ := Traced.bind_outcome_ok _ _ _ done
      cases found with
      | none => cases result
      | some path =>
          cases result
          obtain ⟨listed, hit⟩ := first_file_hit disk _ path search
          exact ⟨split_transport_listed r.transports raw,
            Or.inr ⟨rfl, hit, candidates_normal r.extensions _ directory path absolute plain listed⟩⟩

end Resolver

namespace Classification

def SoundFor (r : Resolver) (disk : Disk) (source : Bytes) (n : Node) (m : ModuleSpecifier) : Prop :=
  ∃ literal raw, n.childInField? "source" = some literal ∧ Literal.value literal source = .ok raw ∧
    Resolver.SoundEdge r disk raw m

theorem yields_sound (r : Resolver) (disk : Disk) (source : Bytes) (file directory : Text) (n : Node)
    (absolute : directory.head? = some Path.slash)
    (plain : ∀ extension ∈ r.extensions, Path.slash ∉ extension ∧ extension ≠ Path.dotDot)
    (item : Item) (yields : Yields (context (r.resolve disk) source file directory) n item) :
    (∀ node, item = .importing node → SoundFor r disk source n node.module) ∧
      (∀ node, item = .reexporting node → SoundFor r disk source n node.module) := by
  cases yields with
  | importing literal raw module node kind sound required given cooked resolved made =>
      have edge := Resolver.resolve_sound r disk raw directory (some file) module absolute plain resolved
      refine ⟨?_, by simp⟩
      intro other same
      cases same
      rw [(import_node_made _ n module node made).2.1]
      exact ⟨literal, raw, given, cooked, edge⟩
  | reexporting literal raw module node kind sound clear given cooked resolved made =>
      have edge := Resolver.resolve_sound r disk raw directory (some file) module absolute plain resolved
      refine ⟨by simp, ?_⟩
      intro other same
      cases same
      rw [(reexport_node_made _ _ _ module node made).2.2.1]
      exact ⟨literal, raw, given, cooked, edge⟩
  | exporting node kind sound clear given made => exact ⟨by simp, by simp⟩

theorem classify_edges_sound (r : Resolver) (disk : Disk) (source : Bytes) (file directory : Text) (nodes : List Node)
    (graph : Graph) (absolute : directory.head? = some Path.slash)
    (plain : ∀ extension ∈ r.extensions, Path.slash ∉ extension ∧ extension ≠ Path.dotDot)
    (done : (classify (r.resolve disk) source file directory nodes).outcome = .ok graph) :
    (∀ node ∈ graph.imports, ∃ n ∈ nodes,
      item? (context (r.resolve disk) source file directory) n = some (.importing node) ∧
        SoundFor r disk source n node.module) ∧
    (∀ node ∈ graph.reexports, ∃ n ∈ nodes,
      item? (context (r.resolve disk) source file directory) n = some (.reexporting node) ∧
        SoundFor r disk source n node.module) := by
  have whole := statements_graph _ nodes graph done
  constructor
  · intro node member
    rw [whole] at member
    obtain ⟨n, listed, yielded⟩ := List.mem_filterMap.mp (Graph.mem_imports _ node member)
    have sound := yields_sound r disk source file directory n absolute plain _ (item_yields _ n _ yielded)
    exact ⟨n, listed, yielded, sound.1 node rfl⟩
  · intro node member
    rw [whole] at member
    obtain ⟨n, listed, yielded⟩ := List.mem_filterMap.mp (Graph.mem_reexports _ node member)
    have sound := yields_sound r disk source file directory n absolute plain _ (item_yields _ n _ yielded)
    exact ⟨n, listed, yielded, sound.2 node rfl⟩

-- `import "../.."` above the root and `export * from "copy:x"`, over the bytes of their literals alone.
def climbingSource : Bytes := [34, 46, 46, 47, 46, 46, 34, 34, 99, 111, 112, 121, 58, 120, 34]

def climbingImport : Node :=
  ⟨"import_statement", 0, 7, true, none, false,
    [⟨"string", 0, 7, true, some "source", false, [⟨"string_fragment", 1, 6, true, none, false, []⟩]⟩]⟩

def copyingExport : Node :=
  ⟨"export_statement", 7, 15, true, none, false,
    [⟨"*", 7, 7, false, none, false, []⟩,
     ⟨"string", 7, 15, true, some "source", false, [⟨"string_fragment", 8, 14, true, none, false, []⟩]⟩]⟩

def climbingGraph : Graph :=
  ⟨[⟨⟨Text.ofString "/.js", false, none⟩, ⟨0, 7⟩, none, .nothing⟩], [],
    [⟨⟨Text.ofString "x", true, some (Text.ofString "copy:")⟩, ⟨7, 15⟩, .whole none⟩]⟩

theorem classify_edges_sound_climbing :
    (classify (Resolver.standard.resolve (Disk.ofLists [Text.ofString "/.js"] [])) climbingSource
      (Text.ofString "/a/m.js") (Text.ofString "/a") [climbingImport, copyingExport]).outcome = .ok climbingGraph ∧
    (∀ node ∈ climbingGraph.imports, ∃ n ∈ [climbingImport, copyingExport],
      SoundFor Resolver.standard (Disk.ofLists [Text.ofString "/.js"] []) climbingSource n node.module) ∧
    (∀ node ∈ climbingGraph.reexports, ∃ n ∈ [climbingImport, copyingExport],
      SoundFor Resolver.standard (Disk.ofLists [Text.ofString "/.js"] []) climbingSource n node.module) := by
  have done : (classify (Resolver.standard.resolve (Disk.ofLists [Text.ofString "/.js"] [])) climbingSource
      (Text.ofString "/a/m.js") (Text.ofString "/a") [climbingImport, copyingExport]).outcome = .ok climbingGraph := rfl
  have sound := classify_edges_sound Resolver.standard (Disk.ofLists [Text.ofString "/.js"] []) climbingSource
    (Text.ofString "/a/m.js") (Text.ofString "/a") [climbingImport, copyingExport] climbingGraph rfl (by decide) done
  refine ⟨done, ?_, ?_⟩
  · intro node member
    obtain ⟨n, listed, _, edge⟩ := sound.1 node member
    exact ⟨n, listed, edge⟩
  · intro node member
    obtain ⟨n, listed, _, edge⟩ := sound.2 node member
    exact ⟨n, listed, edge⟩

end Classification

end Linkage
