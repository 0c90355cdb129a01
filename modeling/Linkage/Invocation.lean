import Linkage.Arguments
import Linkage.Log

set_option autoImplicit false

namespace Linkage

inductive Request where
  | graph (path : Path) (jobs : Option Int) (keepGoing compact : Bool)
  | resolve (specifier : Text) (origin : Path)
  | config (path : Path) (shown : Bool)

structure Invocation where
  verbosity : Log.Verbosity
  request : Request

namespace Invocation

open Arguments

inductive Halt where
  | help (program : Text)
  | version
  | misuse (program : Text) (complaint : Complaint)

def program : Text := Text.ofString "modgraph"

def version : Text := Text.ofString "modgraph 0.1.0"

inductive Switch where
  | help
  | version
  | verbose
  | quiet
  | jobs
  | keepGoing
  | compact
  | origin
  | shown
deriving DecidableEq

inductive Command where
  | graph
  | resolve
  | config
deriving DecidableEq

namespace Command

def name : Command → Text
  | .graph => Text.ofString "graph"
  | .resolve => Text.ofString "resolve"
  | .config => Text.ofString "config"

def all : List Command := [.graph, .resolve, .config]

def ofName? (name : Text) : Option Command := all.find? (·.name = name)

def program (command : Command) : Text := Invocation.program ++ Text.ofString " " ++ command.name

end Command

def flag (key : Switch) (spellings : List String) : OptionRule Switch :=
  ⟨key, spellings.map Text.ofString, false⟩

def valued (key : Switch) (spellings : List String) : OptionRule Switch :=
  ⟨key, spellings.map Text.ofString, true⟩

def help : OptionRule Switch := flag .help ["-h", "--help"]

def verbose : OptionRule Switch := flag .verbose ["-v", "--verbose"]

def quiet : OptionRule Switch := flag .quiet ["-q", "--quiet"]

def rules : Rules Switch := ⟨[help, flag .version ["--version"], verbose, quiet], .command⟩

namespace Command

def ownOptions : Command → List (OptionRule Switch)
  | .graph =>
    [valued .jobs ["--jobs", "-j"], flag .keepGoing ["--keep-going"], flag .compact ["--compact"]]
  | .resolve => [valued .origin ["--from"]]
  | .config => [flag .shown ["--show"]]

def operand : Command → Operand
  | .graph => .optional
  | .resolve => .required
  | .config => .optional

def rules (command : Command) : Rules Switch :=
  ⟨[help, verbose, quiet] ++ command.ownOptions, command.operand⟩

end Command

structure Given where
  verbose : Bool := false
  quiet : Bool := false
  jobs : Option Int := none
  keepGoing : Bool := false
  compact : Bool := false
  shown : Bool := false
  origin : Option Text := none
  operand : Option (List Text) := none
  extras : List Text := []

def integer (rule : OptionRule Switch) (value : Text) : Except Complaint Int :=
  match Setting.numeral value with
  | .ok n => .ok n
  | .error _ => .error (.badInteger rule.name value)

def Given.use (program : Text) (given : Given) (rule : OptionRule Switch) (value : Option Text) :
    Except Halt Given :=
  match rule.key with
  | .help => .error (.help program)
  | .version => .error .version
  | .verbose =>
    if given.quiet then .error (.misuse program (.notAllowedWith rule.name Invocation.quiet.name))
    else .ok { given with verbose := true }
  | .quiet =>
    if given.verbose then .error (.misuse program (.notAllowedWith rule.name Invocation.verbose.name))
    else .ok { given with quiet := true }
  | .jobs =>
    match integer rule (value.getD []) with
    | .ok n => .ok { given with jobs := some n }
    | .error complaint => .error (.misuse program complaint)
  | .keepGoing => .ok { given with keepGoing := true }
  | .compact => .ok { given with compact := true }
  | .origin => .ok { given with origin := value }
  | .shown => .ok { given with shown := true }

def Given.take (program : Text) (given : Given) : Event Switch → Except Halt Given
  | .use rule value => given.use program rule value
  | .operand texts => .ok { given with operand := some texts }
  | .extra text => .ok { given with extras := given.extras ++ [text] }
  | .fault complaint => .error (.misuse program complaint)

def gather (program : Text) (rules : Rules Switch) (arguments : List Text) : Except Halt Given :=
  (Arguments.read rules arguments).foldlM (Given.take program) {}

def pathOr (text : Option Text) : Path := Path.ofText (text.getD Path.dot)

def requestOf (command : Command) (given : Given) : Except Halt Request :=
  let word := given.operand.bind List.head?
  match command with
  | .graph => .ok (.graph (pathOr word) given.jobs given.keepGoing given.compact)
  | .config => .ok (.config (pathOr word) given.shown)
  | .resolve =>
    match word with
    | some specifier => .ok (.resolve specifier (pathOr given.origin))
    | none => .error (.misuse command.program (.missing (Text.ofString "specifier")))

def commandName : Text := Text.ofString "COMMAND"

-- Reads the command and what belongs to it; `extras` were found before it.
def ofCommand (extras : List Text) (name : Text) (arguments : List Text) :
    Except Halt Invocation := do
  match Command.ofName? name with
  | none =>
    .error (.misuse program (.badChoice commandName name (Command.all.map Command.name)))
  | some command => do
    let given ← gather command.program command.rules arguments
    let request ← requestOf command given
    match extras ++ given.extras with
    | [] => return ⟨⟨given.verbose, given.quiet⟩, request⟩
    | unknown => .error (.misuse program (.unrecognized unknown))

def ofArguments (arguments : List Text) : Except Halt Invocation := do
  let given ← gather program rules arguments
  match given.operand with
  | some (name :: rest) => ofCommand given.extras name rest
  | _ => .error (.misuse program (.missing commandName))

end Invocation

end Linkage
