import Linkage.Proofs.ResolverSearch
import Linkage.Proofs.SettingsShown
import Linkage.Proofs.StatementYield
import Linkage.Proofs.SurveyOrder

set_option autoImplicit false

namespace Linkage

namespace Item

def module? : Item → Option ModuleSpecifier
  | .importing node => some node.module
  | .reexporting node => some node.module
  | .exporting _ => none

end Item

namespace Classification

theorem edge_resolved (ctx : Context) (n : Node) (module : ModuleSpecifier)
    (edge : (item? ctx n).bind Item.module? = some module) :
    ∃ literal raw, n.childInField? "source" = some literal ∧ Literal.value literal ctx.source = .ok raw ∧
      (ctx.resolve raw).outcome = .ok module := by
  obtain ⟨item, yielded, leads⟩ := Option.bind_eq_some_iff.mp edge
  cases item_yields ctx n item yielded with
  | importing literal raw target node kind sound required source cooked resolved made =>
      have same : node.module = module := Option.some.inj leads
      rw [(import_node_made ctx n target node made).2.1] at same
      exact ⟨literal, raw, source, cooked, same ▸ resolved⟩
  | reexporting literal raw target node kind sound clear source cooked resolved made =>
      have same : node.module = module := Option.some.inj leads
      rw [(reexport_node_made ctx _ _ target node made).2.2.1] at same
      exact ⟨literal, raw, source, cooked, same ▸ resolved⟩
  | exporting node kind sound clear source made => cases leads

theorem unresolved_asked (ctx : Context) (nodes : List Node) (raw : Text) (importer : Option Text)
    (failed : (statements ctx nodes).outcome = .error (.unresolved raw importer)) :
    ∃ asked, (ctx.resolve asked).outcome = .error (.unresolved raw importer) := by
  obtain ⟨_, n, _, _, _, broken, _⟩ := statements_fail ctx nodes _ failed
  cases statement_fails ctx n _ broken with
  | undecodable failure fault =>
      obtain ⟨_, _, _, _, _, _, escape⟩ := fault
      cases escape
  | unresolved literal asked failure source cooked fault probes => exact ⟨asked, fault⟩

end Classification

namespace ModuleFile

theorem read_file (host : Host) (path : Path) (content : Bytes) (present : host.look path = .ok (some (.file content))) :
    host.read path = .ok content := by
  rw [Host.read, host.look_some path _ present]
  rfl

theorem wrap_ok_iff {α : Type} (path : Path) (x : Except Failure α) (a : α) : wrap path x = .ok a ↔ x = .ok a := by
  cases x with
  | ok b => simp [wrap]
  | error cause => simp [wrap]

theorem wrap_error {α : Type} (path : Path) (x : Except Failure α) (failure : FileFailure)
    (failed : wrap path x = .error failure) : x = .error failure.cause := by
  cases x with
  | ok a => cases failed
  | error cause =>
      cases failed
      rfl

section Load

variable (host : Host) (resolve : Resolution) (path : Path) (content : Bytes)

theorem load_read (read : host.read path = .ok content) :
    load host resolve path = wrap path (Grammar.ofPath path >>= fun grammar =>
      (classify resolve content path.text (Path.directoryOf path.text) (host.parse grammar content)).outcome) := by
  have traced : trace host resolve path = graph host.parse resolve path content := by
    rw [trace, read]
    exact Traced.pure_bind content (graph host.parse resolve path)
  rw [load, traced, graph]
  cases Grammar.ofPath path with
  | error failure => rfl
  | ok grammar => exact congrArg (fun outcome => wrap path (Traced.outcome outcome)) (Traced.pure_bind grammar _)

theorem load_graph (read : host.read path = .ok content) (graph : Graph) (done : load host resolve path = .ok graph) :
    ∃ grammar, Grammar.ofPath path = .ok grammar ∧
      (classify resolve content path.text (Path.directoryOf path.text) (host.parse grammar content)).outcome = .ok graph := by
  rw [load_read host resolve path content read, wrap_ok_iff] at done
  exact Failure.bind_ok _ _ _ done

theorem load_unresolved (read : host.read path = .ok content) (failure : FileFailure) (raw : Text)
    (importer : Option Text) (failed : load host resolve path = .error failure)
    (cause : failure.cause = .unresolved raw importer) :
    ∃ grammar, Grammar.ofPath path = .ok grammar ∧
      (classify resolve content path.text (Path.directoryOf path.text) (host.parse grammar content)).outcome =
        .error (.unresolved raw importer) := by
  rw [load_read host resolve path content read] at failed
  have broken := wrap_error path _ failure failed
  rw [cause] at broken
  cases named : Grammar.ofPath path with
  | error fault =>
      rw [named, Failure.error_bind] at broken
      cases broken
      rw [Grammar.ofPath] at named
      split at named <;> cases named
  | ok grammar =>
      rw [named, Failure.ok_bind] at broken
      exact ⟨grammar, rfl, broken⟩

end Load

end ModuleFile

namespace Survey

theorem survey_of_file (host : Host) (sound : host.Sound) (schedule : Pool.Schedule) (plan : Plan) (place : Path)
    (content : Bytes) (survey : Survey) (finds : host.Finds plan.path place (.file content))
    (done : run host schedule plan = .ok survey) :
    ∃ b, brief host plan place = .ok b ∧
      ∀ entry ∈ survey.entries, entry = entryFor host b.resolver place.parent place := by
  have again := host.finds_place sound plan.path place _ finds
  rw [run_settled host schedule plan place finds.settled] at done
  obtain ⟨b, briefed, rest⟩ := Failure.bind_ok _ _ _ done
  obtain ⟨files, collected, rest⟩ := Failure.bind_ok _ _ _ rest
  have alone := collected_alone host place place b.project b.rules content again b.extensions files collected
  rw [is_directory_present host place _ finds.present] at rest
  cases rest
  refine ⟨b, briefed, ?_⟩
  intro entry member
  have few : ¬ (1 < b.jobs ∧ 1 < files.length) := by
    rcases alone with empty | own
    · simp [empty]
    · simp [own]
  rw [loadAll, if_neg few] at member
  obtain ⟨file, listed, made⟩ := List.mem_map.mp member
  rcases alone with empty | own
  · rw [empty] at listed
    cases listed
  · rw [own] at listed
    rw [← made, List.mem_singleton.mp listed]
    rfl

theorem run_file (host : Host) (schedule : Pool.Schedule) (plan : Plan) (place : Path) (content : Bytes) (b : Brief)
    (finds : host.Finds plan.path place (.file content)) (briefed : brief host plan place = .ok b)
    (collected : collect host place b.project b.rules b.extensions = .ok [place]) :
    run host schedule plan = .ok ⟨place.parent, [entryFor host b.resolver place.parent place]⟩ := by
  rw [run_collected host schedule plan place _ b [place] finds briefed collected, loadAll, if_neg (by simp)]
  rfl

theorem brief_resolver (host : Host) (plan : Plan) (place : Path) (b : Brief) (briefed : brief host plan place = .ok b)
    (own : plan.resolver = none)
    (fromDisk : ∀ settings, plan.settings = some settings → Execution.usedAt host place = .ok settings) :
    ∃ settings, Execution.usedAt host place = .ok settings ∧ ResolverSettings.ofSettings settings = .ok b.resolver := by
  obtain ⟨project, rooted, rest⟩ := Failure.bind_ok _ _ _ briefed
  obtain ⟨settings, read, rest⟩ := Failure.bind_ok _ _ _ rest
  obtain ⟨walker, _, rest⟩ := Failure.bind_ok _ _ _ rest
  obtain ⟨jobs, _, rest⟩ := Failure.bind_ok _ _ _ rest
  obtain ⟨resolver, asked, rest⟩ := Failure.bind_ok _ _ _ rest
  obtain ⟨rules, _, rest⟩ := Failure.bind_ok _ _ _ rest
  obtain ⟨extensions, _, rest⟩ := Failure.bind_ok _ _ _ rest
  cases rest
  rw [resolverFor, own] at asked
  refine ⟨settings, ?_, asked⟩
  rw [settingsFor] at read
  cases given : plan.settings with
  | some other =>
      rw [given] at read
      cases read
      exact fromDisk _ given
  | none =>
      rw [given] at read
      rw [Execution.usedAt, rooted]
      exact read

end Survey

namespace Execution

variable (host : Host)

theorem used_beside (place : Path) (content : Bytes) (held : host.Held place (.file content)) :
    usedAt host place = usedAt host place.parent := by
  obtain ⟨entries, above⟩ := host.parent_held place content held
  have own := Project.directory_of_held host place _ held
  have fixed := Project.directory_of_held host place.parent _ above
  rw [usedAt, usedAt, Project.root_of_base host place place.parent own fixed]

theorem resolve_used (raw : Text) (origin place : Path) (settings : Settings) (resolver : ResolverSettings)
    (settled : host.settle origin = .ok place) (used : usedAt host place = .ok settings)
    (asked : ResolverSettings.ofSettings settings = .ok resolver) :
    (∀ module, (resolver.search host.disk raw place.text).outcome = .ok (some module) →
      ∃ probes, resolve host raw origin =
        .ok { report := { status := 0, output := printed .indented module.toJson }, probes := probes }) ∧
    ((resolver.search host.disk raw place.text).outcome = .ok none →
      ∃ probes, resolve host raw origin =
        .ok { report := complaint (Failure.message (.unresolved raw none)), probes := probes }) := by
  obtain ⟨project, rooted, loaded⟩ := Failure.bind_ok _ _ _ used
  rw [resolve, settled, Failure.ok_bind, rooted, Failure.ok_bind, loaded, Failure.ok_bind, asked, Failure.ok_bind]
  constructor
  · intro module found
    have done := (resolver.resolve_module_iff host.disk raw place.text none module).mpr found
    refine ⟨(resolver.resolve host.disk raw place.text none).probes, ?_⟩
    simp only [done]
    rfl
  · intro found
    have failed := (resolver.resolve_unresolved_iff host.disk raw place.text raw none none host.disk_reserved).mpr
      ⟨⟨rfl, rfl⟩, found⟩
    refine ⟨(resolver.resolve host.disk raw place.text none).probes, ?_⟩
    simp only [failed]
    rfl

-- A statement of a module, and the module that its literal means when it is resolved by itself.
def PrintedFor (origin : Path) (source : Bytes) (n : Node) (module : ModuleSpecifier) : Prop :=
  ∃ literal raw probes, n.childInField? "source" = some literal ∧ Literal.value literal source = .ok raw ∧
    resolve host raw origin =
      .ok { report := { status := 0, output := printed .indented module.toJson }, probes := probes }

theorem resolve_agrees (sound : host.Sound) (schedule : Pool.Schedule) (plan : Survey.Plan) (place origin : Path)
    (content : Bytes) (survey : Survey) (finds : host.Finds plan.path place (.file content))
    (own : plan.resolver = none)
    (fromDisk : ∀ settings, plan.settings = some settings → usedAt host place = .ok settings)
    (beside : host.settle origin = .ok place.parent) (done : Survey.run host schedule plan = .ok survey) :
    (∀ key graph, (key, graph) ∈ survey.graphs → ∃ b grammar, Survey.brief host plan place = .ok b ∧
      Grammar.ofPath place = .ok grammar ∧
      ∃ ctx, ctx = Classification.context (b.resolver.resolve host.disk) content place.text (Path.directoryOf place.text) ∧
        graph = Graph.ofItems ((host.parse grammar content).filterMap (Classification.item? ctx)) ∧
        ∀ n ∈ host.parse grammar content, ∀ module, (Classification.item? ctx n).bind Item.module? = some module →
          PrintedFor host origin content n module) ∧
    (∀ entry ∈ survey.entries, ∀ failure raw importer, entry.outcome = .error failure →
      failure.cause = .unresolved raw importer →
      ∃ performance, resolve host raw origin = .ok performance ∧ performance.report.status = 1) := by
  obtain ⟨b, briefed, only⟩ :=
    Survey.survey_of_file host sound schedule plan place content survey finds done
  obtain ⟨settings, used, asked⟩ := Survey.brief_resolver host plan place b briefed own fromDisk
  have held := host.finds_held sound plan.path place _ finds
  obtain ⟨_, names, inside⟩ := host.place_named sound plan.path place _ finds.settled finds.present
  have directory : Path.directoryOf place.text = place.parent.text :=
    Path.directory_of_text place held.plain.1 (inside rfl) fun part member => (names part member).1
  have answers (raw : Text) := resolve_used host raw origin place.parent settings b.resolver beside
    ((used_beside host place content held).symm.trans used) asked
  have read := ModuleFile.read_file host place content finds.present
  constructor
  · intro key graph member
    obtain ⟨entry, listed, seen⟩ := List.mem_filterMap.mp member
    rw [only entry listed, Survey.graph_entry_iff] at seen
    obtain ⟨grammar, named, classified⟩ := ModuleFile.load_graph host _ place content read graph seen.2
    refine ⟨b, grammar, briefed, named, _, rfl, Classification.statements_graph _ _ graph classified, ?_⟩
    intro n _ module edge
    obtain ⟨literal, raw, source, cooked, resolved⟩ := Classification.edge_resolved _ n module edge
    change (b.resolver.resolve host.disk raw (Path.directoryOf place.text) (some place.text)).outcome = _ at resolved
    rw [directory, ResolverSettings.resolve_module_iff] at resolved
    obtain ⟨probes, answered⟩ := (answers raw).1 module resolved
    exact ⟨literal, raw, probes, source, cooked, answered⟩
  · intro entry listed failure raw importer failed cause
    rw [only entry listed, Survey.outcome_entryFor] at failed
    obtain ⟨grammar, _, classified⟩ :=
      ModuleFile.load_unresolved host _ place content read failure raw importer failed cause
    obtain ⟨asking, resolved⟩ := Classification.unresolved_asked _ _ raw importer classified
    change (b.resolver.resolve host.disk asking (Path.directoryOf place.text) (some place.text)).outcome = _ at resolved
    rw [directory, ResolverSettings.resolve_unresolved_iff _ _ _ _ _ _ _ host.disk_reserved] at resolved
    obtain ⟨⟨same, _⟩, searched⟩ := resolved
    obtain ⟨probes, answered⟩ := (answers raw).2 (same ▸ searched)
    exact ⟨_, answered, rfl⟩

-- `import "./x"` beside such a file, and `import "./z"` without one.
def linkingSource : Bytes := [105, 109, 112, 111, 114, 116, 32, 34, 46, 47, 120, 34]

def straySource : Bytes := [105, 109, 112, 111, 114, 116, 32, 34, 46, 47, 122, 34]

def neighbours : Host :=
  .bundled [(Text.ofString "p", .directory
      [(Text.ofString "m.js", .file linkingSource), (Text.ofString "n.js", .file straySource),
        (Text.ofString "x.js", .file [])])]
    ⟨.slash, [Text.ofString "p"]⟩ ⟨.slash, [Text.ofString "h"]⟩

def linkingFile : Path := ⟨.slash, [Text.ofString "p", Text.ofString "m.js"]⟩

def strayFile : Path := ⟨.slash, [Text.ofString "p", Text.ofString "n.js"]⟩

def linkingImport : Import := ⟨⟨Text.ofString "/p/x.js", false, none⟩, ⟨0, 12⟩, none, .nothing⟩

theorem neighbours_sound : neighbours.Sound := ⟨rfl, by decide⟩

theorem linking_survey : ∃ survey, Survey.run neighbours Pool.oneByOne { path := linkingFile } = .ok survey ∧
    survey.graphs = [(Text.ofString "m.js", ⟨[linkingImport], [], []⟩)] := by
  obtain ⟨b, briefed, collected, graphs⟩ : ∃ b, Survey.brief neighbours { path := linkingFile } linkingFile = .ok b ∧
      Survey.collect neighbours linkingFile b.project b.rules b.extensions = .ok [linkingFile] ∧
      Survey.graphs ⟨linkingFile.parent, [Survey.entryFor neighbours b.resolver linkingFile.parent linkingFile]⟩ =
        [(Text.ofString "m.js", ⟨[linkingImport], [], []⟩)] := ⟨_, rfl, rfl, rfl⟩
  exact ⟨_, Survey.run_file neighbours _ _ linkingFile linkingSource b ⟨rfl, rfl⟩ briefed collected, graphs⟩

theorem stray_survey : ∃ survey entry, Survey.run neighbours Pool.oneByOne { path := strayFile } = .ok survey ∧
    survey.entries = [entry] ∧
    entry.outcome = .error ⟨strayFile.text, .unresolved (Text.ofString "./z") (some strayFile.text)⟩ := by
  obtain ⟨b, briefed, collected, failed⟩ : ∃ b, Survey.brief neighbours { path := strayFile } strayFile = .ok b ∧
      Survey.collect neighbours strayFile b.project b.rules b.extensions = .ok [strayFile] ∧
      (Survey.entryFor neighbours b.resolver strayFile.parent strayFile).outcome =
        .error ⟨strayFile.text, .unresolved (Text.ofString "./z") (some strayFile.text)⟩ := ⟨_, rfl, rfl, rfl⟩
  exact ⟨_, _, Survey.run_file neighbours _ _ strayFile straySource b ⟨rfl, rfl⟩ briefed collected, rfl, failed⟩

theorem resolve_agrees_neighbours :
    (∃ n ∈ neighbours.parse .tsx linkingSource,
      PrintedFor neighbours linkingFile.parent linkingSource n linkingImport.module) ∧
    ∃ performance, resolve neighbours (Text.ofString "./z") strayFile.parent = .ok performance ∧
      performance.report.status = 1 := by
  obtain ⟨linked, linkedDone, graphs⟩ := linking_survey
  obtain ⟨strayed, entry, strayedDone, entries, failed⟩ := stray_survey
  constructor
  · have agrees := resolve_agrees neighbours neighbours_sound Pool.oneByOne { path := linkingFile } linkingFile
      linkingFile.parent linkingSource linked ⟨rfl, rfl⟩ rfl (fun _ given => nomatch given) rfl linkedDone
    obtain ⟨_, grammar, _, named, ctx, _, whole, printed⟩ := agrees.1 _ _ (graphs ▸ List.mem_cons_self)
    have same : Grammar.tsx = grammar := Except.ok.inj named
    have imported : linkingImport ∈ Graph.imports
        (Graph.ofItems ((neighbours.parse grammar linkingSource).filterMap (Classification.item? ctx))) :=
      whole ▸ List.mem_cons_self
    obtain ⟨n, listed, yielded⟩ := List.mem_filterMap.mp (Graph.mem_imports _ _ imported)
    exact ⟨n, same ▸ listed, printed n listed _ (by rw [yielded]; rfl)⟩
  · have agrees := resolve_agrees neighbours neighbours_sound Pool.oneByOne { path := strayFile } strayFile
      strayFile.parent straySource strayed ⟨rfl, rfl⟩ rfl (fun _ given => nomatch given) rfl strayedDone
    exact agrees.2 entry (entries ▸ List.mem_cons_self) _ _ _ failed rfl

end Execution

end Linkage
