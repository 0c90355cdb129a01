import Linkage.Settings
import Linkage.Text.LetterCase

set_option autoImplicit false

namespace Linkage

namespace Log

inductive Level where
  | debug
  | info
  | warning
  | error
  | critical
deriving DecidableEq

namespace Level

def rank : Level → Nat
  | .debug => 10
  | .info => 20
  | .warning => 30
  | .error => 40
  | .critical => 50

def name : Level → String
  | .debug => "DEBUG"
  | .info => "INFO"
  | .warning => "WARNING"
  | .error => "ERROR"
  | .critical => "CRITICAL"

-- The names that a threshold may have in the settings. One that asks for no level of its own gets that
-- of warnings.
def named : List (Text × Level) :=
  [("DEBUG", debug), ("INFO", info), ("WARNING", warning), ("WARN", warning), ("ERROR", error),
   ("CRITICAL", critical), ("FATAL", critical), ("NOTSET", warning)].map fun (name, level) =>
    (Text.ofString name, level)

-- The threshold of a name, in any letter case; an unknown name is that of information. Two names are
-- taken by a format and a table, which are no levels.
def ofName (name : Text) : Except Failure Level :=
  let name := Text.asciiUpper name
  if name = Text.ofString "BASIC_FORMAT" then
    .error (.logLevel (Text.ofString "%(levelname)s:%(name)s:%(message)s"))
  else if name = Text.ofString "_STYLES" then
    .error (.wrongType (Text.ofString "a level must be a number or a name"))
  else .ok ((named.lookup name).getD info)

end Level

structure Record where
  level : Level
  source : String
  message : Text

namespace Record

def line (r : Record) : Text :=
  Text.ofString (r.level.name ++ " [" ++ r.source ++ "] ") ++ r.message

def passes (threshold : Level) (r : Record) : Bool := threshold.rank ≤ r.level.rank

end Record

structure Verbosity where
  verbose : Bool
  quiet : Bool
deriving DecidableEq

def threshold (verbosity : Verbosity) (logging : Json) : Except Failure Level :=
  if verbosity.verbose then .ok .debug
  else if verbosity.quiet then .ok .error
  else do
    let name ← Setting.letters (Setting.orElse (.ofString "INFO") (← Setting.part "level" logging))
    Level.ofName name

def expandHome (host : Host) (path : Path) : Except Failure Path :=
  match path.root, path.parts with
  | .none, first :: rest =>
    if first = Text.ofString "~" then .ok ⟨host.home.root, host.home.parts ++ rest⟩
    else if Text.startsWith first (Text.ofString "~") then .error .noHome
    else .ok path
  | _, _ => .ok path

def place (host : Host) (file : Text) : Except Failure Path := do
  return (host.absolute (← expandHome host (Path.ofText file))).collapse

structure Journal where
  threshold : Level
  file : Option Path
  opening : List Record

def unopened (file : Text) (failure : Failure) : Record :=
  ⟨.warning, "modgraph",
   Text.ofString "Cannot open log file " ++ file ++ Text.ofString ": " ++ failure.message⟩

def fileText : Json → Except Failure Text
  | .str t => .ok t
  | value => .error (.wrongType (Text.ofString ("no path in a " ++ Setting.typeName value)))

-- The settings on logs; they are those of the user, never those of a project.
def settings (host : Host) : Except Failure Json := do
  Setting.section? "logging" (← Settings.load host none)

def fileIn (host : Host) (logging : Json) : Except Failure (Option (Text × Path)) := do
  match Setting.orElse .null (← Setting.part "file" logging) with
  | .null => return none
  | file => do
    let text ← fileText file
    return some (text, ← place host text)

def openJournal (host : Host) (verbosity : Verbosity) : Except Failure Journal := do
  let logging ← settings host
  let threshold ← threshold verbosity logging
  match ← fileIn host logging with
  | none => return ⟨threshold, none, []⟩
  | some (text, place) =>
    match host.canAppend place with
    | .ok () => return ⟨threshold, some place, []⟩
    | .error (.disk fault path) => return ⟨threshold, none, [unopened text (.disk fault path)]⟩
    | .error failure => .error failure

def Journal.kept (journal : Journal) (records : List Record) : List Record :=
  (journal.opening ++ records).filter (Record.passes journal.threshold)

end Log

end Linkage
