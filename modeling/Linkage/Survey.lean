import Linkage.Graph.View
import Linkage.ModuleFile
import Linkage.Pool
import Linkage.Project
import Linkage.Settings.Resolver

set_option autoImplicit false

namespace Linkage

structure SurveyEntry where
  key : Text
  probes : List Text
  outcome : Except FileFailure Graph

structure Survey where
  root : Path
  entries : List SurveyEntry

namespace SurveyEntry

def graph? (entry : SurveyEntry) : Option (Text × Graph) :=
  match entry.outcome with
  | .ok graph => some (entry.key, graph)
  | .error _ => none

-- A story as it is kept; one without a word in it is replaced.
def told (story : Text) : Text := if story.isEmpty then Text.ofString "unknown error" else story

def failure? (entry : SurveyEntry) : Option (Text × Text) :=
  match entry.outcome with
  | .ok _ => none
  | .error failure => some (entry.key, told failure.describe)

end SurveyEntry

namespace Survey

def graphs (s : Survey) : List (Text × Graph) := s.entries.filterMap SurveyEntry.graph?

def failures (s : Survey) : List (Text × Text) := s.entries.filterMap SurveyEntry.failure?

def probes (s : Survey) : List Text := s.entries.flatMap SurveyEntry.probes

def graphFor? (s : Survey) (path : Text) : Option Graph := s.graphs.lookup (Path.ofText path).text

def toJson (s : Survey) : Json :=
  .ofPairs
    [("root", .str s.root.text),
     ("files", .obj (s.graphs.map fun (key, graph) => (key, graph.toJson))),
     ("errors", .obj (s.failures.map fun (key, story) => (key, .str story)))]

def suffixes (extensions : Json) : Except Failure (List Text) := do
  (← Setting.items extensions).mapM fun entry => do return Text.lower (← Setting.letters entry)

def sorted (paths : List Path) : List Path := paths.mergeSort fun a b => Text.le a.text b.text

variable (host : Host)

def wants (suffixes : List Text) (rules : IgnoreRules) (project path : Path) : Bool :=
  suffixes.contains (Text.lower path.suffix) && !Project.ignores host rules project path

def collect (path project : Path) (rules : IgnoreRules) (extensions : Json) :
    Except Failure (List Path) := do
  let place ← host.settle path
  let wanted ← suffixes extensions
  match ← host.look place with
  | none => return []
  | some (.file _) => return if wants host wanted rules project place then [place] else []
  | some (.directory entries) =>
    let regular ← host.regular (FileTree.within place (.directory entries))
    return sorted (regular.filter (wants host wanted rules project))

def keyOf (root file : Path) : Text :=
  match file.relativeTo? root with
  | some parts => Path.text ⟨.none, parts⟩
  | none => file.text

def entryFor (resolver : ResolverSettings) (root file : Path) : SurveyEntry :=
  let traced := ModuleFile.trace host (resolver.resolve host.disk) file
  ⟨keyOf root file, traced.probes, ModuleFile.wrap file traced.outcome⟩

theorem outcome_entryFor (resolver : ResolverSettings) (root file : Path) :
    (entryFor host resolver root file).outcome =
      ModuleFile.load host (resolver.resolve host.disk) file := rfl

-- What a survey is told; what it is not told comes from the settings, and the settings from the disk.
structure Plan where
  path : Path
  settings : Option Settings := none
  jobs : Option Int := none
  resolver : Option ResolverSettings := none

def settingsFor (plan : Plan) (project : Path) : Except Failure Settings :=
  match plan.settings with
  | some settings => .ok settings
  | none => Settings.load host (some project)

def jobsFor (plan : Plan) (walker : Json) : Except Failure Int :=
  match plan.jobs with
  | some jobs => .ok jobs
  | none => do Setting.integer (Setting.orElse (.int 1) (← Setting.part "jobs" walker))

def resolverFor (plan : Plan) (settings : Settings) : Except Failure ResolverSettings :=
  match plan.resolver with
  | some resolver => .ok resolver
  | none => ResolverSettings.ofSettings settings

def loadAll (schedule : Pool.Schedule) (jobs : Int) (load : Path → SurveyEntry)
    (files : List Path) : List SurveyEntry :=
  if 1 < jobs ∧ 1 < files.length then
    (Pool.run jobs.toNat load files (schedule files.length)).outcomes
  else files.map load

structure Brief where
  project : Path
  jobs : Int
  resolver : ResolverSettings
  rules : IgnoreRules
  extensions : Json

def brief (plan : Plan) (place : Path) : Except Failure Brief := do
  let project ← Project.root host place
  let settings ← settingsFor host plan project
  let walker ← Setting.section? "walker" settings
  let jobs ← jobsFor plan walker
  let resolver ← resolverFor plan settings
  let rules ← Project.ignoreRules host project settings
  let extensions :=
    Setting.orElse (.texts Resolver.defaultExtensions) (← Setting.part "extensions" walker)
  return ⟨project, jobs, resolver, rules, extensions⟩

def run (schedule : Pool.Schedule) (plan : Plan) : Except Failure Survey := do
  let place ← host.settle plan.path
  let brief ← brief host plan place
  let files ← collect host place brief.project brief.rules brief.extensions
  let root := if ← host.isDirectory place then place else place.parent
  return ⟨root, loadAll schedule brief.jobs (entryFor host brief.resolver root) files⟩

end Survey

end Linkage
