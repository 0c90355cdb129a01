import Linkage.Invocation
import Linkage.Json.Printer
import Linkage.Survey

set_option autoImplicit false

namespace Linkage

structure Report where
  status : Nat
  output : Text := []
  remarks : List Text := []

structure Performance where
  report : Report
  records : List Log.Record := []
  probes : List Text := []

structure Execution where
  result : Except Failure Report
  probes : List Text
  records : List Log.Record
  journal : Option Path

namespace Execution

def newline : Text := [.scalar '\n']

def printed (layout : Json.Layout) (value : Json) : Text := Json.text layout value ++ newline

def complaint (message : Text) : Report :=
  { status := 1, remarks := [Text.ofString "Error: " ++ message] }

def recordOf (root : Path) (entry : SurveyEntry) : Log.Record :=
  match entry.outcome with
  | .ok graph =>
    ⟨.debug, "modgraph.analysis.loader",
     (root.below (Path.ofText entry.key)).text ++ Text.ofString ": " ++
       Text.ofNat graph.imports.length ++ Text.ofString " import(s), " ++
       Text.ofNat graph.exports.length ++ Text.ofString " export(s), " ++
       Text.ofNat graph.reexports.length ++ Text.ofString " re-export(s)"⟩
  | .error failure => ⟨.warning, "modgraph.walker", failure.describe⟩

def recordsOf (survey : Survey) : List Log.Record :=
  ⟨.info, "modgraph.walker",
   Text.ofString "Building graphs for " ++ Text.ofNat survey.entries.length ++
     Text.ofString " file(s) under " ++ survey.root.text⟩ ::
    survey.entries.map (recordOf survey.root)

def summary (seconds : Text) (survey : Survey) : List Text :=
  match survey.entries with
  | [] => [Text.ofString "No JavaScript or TypeScript files found."]
  | entries =>
    let built :=
      Text.ofString "Built " ++ Text.ofNat survey.graphs.length ++ Text.ofString " graph(s) from " ++
        Text.ofNat entries.length ++ Text.ofString " file(s) in " ++ seconds ++ Text.ofString "s."
    match survey.failures with
    | [] => [built]
    | failures =>
      [built, Text.ofString "  (" ++ Text.ofNat failures.length ++ Text.ofString " file(s) failed)"] ++
        failures.map fun (key, story) =>
          Text.ofString "  " ++ key ++ Text.ofString ": " ++ story

def status (keepGoing : Bool) (survey : Survey) : Nat :=
  if survey.failures.isEmpty || keepGoing then 0 else 1

variable (host : Host)

def graph (schedule : Pool.Schedule) (seconds : Text) (path : Path) (jobs : Option Int)
    (keepGoing compact : Bool) : Except Failure Performance := do
  let place ← host.settle path
  if !(← host.holds place) then
    return { report := complaint (Text.ofString "path does not exist: " ++ place.text) }
  else if jobs.any (· < 1) then
    return { report := complaint (Text.ofString "--jobs must be at least 1.") }
  else
    let settings ← Settings.load host (some (← Project.root host place))
    let survey ← Survey.run host schedule { path := place, settings := some settings, jobs := jobs }
    let layout : Json.Layout := if compact then .compact else .indented
    return {
      report :=
        { status := status keepGoing survey
          output := printed layout survey.toJson
          remarks := summary seconds survey }
      records := recordsOf survey
      probes := survey.probes }

def resolve (specifier : Text) (origin : Path) : Except Failure Performance := do
  let place ← host.settle origin
  let settings ← Settings.load host (some (← Project.root host place))
  let resolver ← ResolverSettings.ofSettings settings
  let found := resolver.resolve host.disk specifier place.text none
  match found.outcome with
  | .ok module =>
    return {
      report := { status := 0, output := printed .indented module.toJson }
      probes := found.probes }
  | .error (.unresolved raw importer) =>
    return {
      report := complaint (Failure.message (.unresolved raw importer))
      probes := found.probes }
  | .error failure => .error failure

def config (path : Path) (shown : Bool) : Except Failure Performance := do
  let place ← host.settle path
  if shown then
    let settings ← Settings.load host (← Project.find host place)
    return { report := { status := 0, output := printed .indented settings } }
  else return { report := complaint (Text.ofString "specify --show.") }

def perform (schedule : Pool.Schedule) (seconds : Text) : Request → Except Failure Performance
  | .graph path jobs keepGoing compact =>
    graph host schedule seconds path jobs keepGoing compact
  | .resolve specifier origin => resolve host specifier origin
  | .config path shown => config host path shown

def usage (program : Text) : Text :=
  Text.ofString "usage: " ++ program ++ Text.ofString " [-h] [-v | -q] ..." ++ newline

def halted : Invocation.Halt → Report
  | .help program => { status := 0, output := usage program }
  | .version => { status := 0, output := Invocation.version ++ newline }
  | .misuse program complaint =>
    { status := 2, remarks := [program ++ Text.ofString ": error: " ++ complaint.message] }

-- The host with the log file of a journal, which is made when it is opened.
def prepared (journal : Log.Journal) : Host :=
  match journal.file with
  | some file => host.append file []
  | none => host

def run (schedule : Pool.Schedule) (seconds : Text) (arguments : List Text) : Execution :=
  match Invocation.ofArguments arguments with
  | .error halt => ⟨.ok (halted halt), [], [], none⟩
  | .ok invocation =>
    match Log.openJournal host invocation.verbosity with
    | .error failure => ⟨.error failure, [], [], none⟩
    | .ok journal =>
      match perform (prepared host journal) schedule seconds invocation.request with
      | .error failure => ⟨.error failure, [], journal.kept [], journal.file⟩
      | .ok done => ⟨.ok done.report, done.probes, journal.kept done.records, journal.file⟩

def logLines (e : Execution) : List Text := e.records.map Log.Record.line

def after (e : Execution) : Host :=
  match e.journal with
  | some file => host.append file (Utf8.encode (e.logLines.flatMap (· ++ newline)))
  | none => host

end Execution

end Linkage
