import Linkage.Settings

set_option autoImplicit false

namespace Linkage

namespace Project

variable (host : Host)

def directoryOf (path : Path) : Except Failure Path := do
  let place ← host.settle path
  if ← host.isFile place then return place.parent else return place

def firstMarked : List Path → Except Failure (Option Path)
  | [] => .ok none
  | path :: above => do
    if ← host.isDirectory (path.child Settings.directoryName) then return some path
    else firstMarked above

def find (path : Path) : Except Failure (Option Path) := do
  firstMarked host (← directoryOf host path).ancestors

-- The root of the project of a path; a path outside any project is its own.
def root (path : Path) : Except Failure Path := do
  match ← find host path with
  | some marked => return marked
  | none => directoryOf host path

def isPattern (line : Text) : Bool :=
  match line with
  | [] => false
  | first :: _ => !first.is '#'

def patternsOf (path : Path) : Except Failure (List Text) := do
  if ← host.isFile path then
    return (Text.lines (← Settings.decoded (← host.read path))).map Text.trim |>.filter isPattern
  else return []

def ignoreFileName : Text := Text.ofString ".modgraphignore"

def gitIgnoreFileName : Text := Text.ofString ".gitignore"

def listed (key : String) (ignore : Json) : Except Failure (List Json) := do
  Setting.items (Setting.orElse (.arr []) (← Setting.part key ignore))

-- All ignore patterns of a project, the weakest first.
def ignoreEntries (project : Path) (settings : Settings) : Except Failure (List Json) := do
  let place ← host.settle project
  let ignore ← Setting.section? "ignore" settings
  let builtin ← listed "builtin_patterns" ignore
  let own ← patternsOf host (place.child ignoreFileName)
  let usesGit := ((← Setting.part "use_gitignore" ignore).getD (.bool true)).isSet
  let shared ← if usesGit then patternsOf host (place.child gitIgnoreFileName) else .ok []
  let additional ← listed "additional_patterns" ignore
  return builtin ++ own.map .str ++ shared.map .str ++ additional

def ignoreRules (project : Path) (settings : Settings) : Except Failure IgnoreRules := do
  host.compile (← ignoreEntries host project settings)

def ignores (rules : IgnoreRules) (project path : Path) : Bool :=
  match host.settle path, host.settle project with
  | .ok place, .ok base => rules.ignores base place
  | _, _ => false

end Project

end Linkage
