import Linkage.Bundle
import Linkage.Execution

set_option autoImplicit false

namespace Linkage

namespace CommandLine

def maxDepth : Nat := 128

def maxRounds : Nat := 10000

-- The kind of what is at a place; links to files count as files, other links as nothing.
def kindAt (place : String) : IO (Option IO.FS.FileType) := do
  let path := (← IO.currentDir) / place
  try
    match (← path.symlinkMetadata).type with
    | .symlink => return if (← path.metadata).type == .file then some .file else none
    | kind => return some kind
  catch _ => return none

def isRead (name : Text) : Bool :=
  Grammar.supports ⟨.none, [name]⟩ || name == Settings.fileName ||
    name == Project.ignoreFileName || name == Project.gitIgnoreFileName

def fileAt (place : String) (name : Text) : IO Entry := do
  if isRead name then return .file (← IO.FS.readBinFile place).toList else return .file []

def entryAt : (depth : Nat) → (place : String) → (name : Text) → IO (Option Entry)
  | 0, _, _ => return none
  | depth + 1, place, name => do
    match ← kindAt place with
    | some .file => return some (← fileAt place name)
    | some .dir =>
      let names := (← ((← IO.currentDir) / place).readDir).toList.map fun entry => entry.fileName
      let entries ← names.filterMapM fun child => do
        let found ← entryAt depth (place ++ "/" ++ child) (Text.ofString child)
        return found.map fun entry => (Text.ofString child, entry)
      return some (.directory entries)
    | _ => return none

def addDeep (depth : Nat) (tree : FileTree) (path : Path) : IO FileTree := do
  match ← entryAt depth (Text.toDisplay path.text) path.name with
  | some entry => return tree.put entry path.parts
  | none => return tree

def addBare (tree : FileTree) (path : Path) : IO (FileTree × Bool) := do
  match tree.find path.parts with
  | .ok _ => return (tree, false)
  | .error _ =>
    match ← kindAt (Text.toDisplay path.text) with
    | some .file => return (tree.put (.file []) path.parts, true)
    | some .dir => return (tree.put (.directory []) path.parts, true)
    | _ => return (tree, false)

def addAll (tree : FileTree) (paths : List Path) : IO (FileTree × Bool) :=
  paths.foldlM (fun (tree, grown) path => do
    let (wider, lacked) ← addBare tree path
    return (wider, grown || lacked)) (tree, false)

def addMarks (tree : FileTree) (directory : Path) : IO FileTree := do
  let tree ← addDeep 2 tree (directory.child Settings.directoryName)
  let tree ← addDeep 1 tree (directory.child Project.ignoreFileName)
  addDeep 1 tree (directory.child Project.gitIgnoreFileName)

def addLog (host : Host) : IO FileTree := do
  match Log.settings host >>= Log.fileIn host with
  | .ok (some (_, place)) => return (← addAll host.tree [place.parent, place]).1
  | _ => return host.tree

def subject : Request → Path × Bool
  | .graph path _ _ _ => (path, true)
  | .resolve _ origin => (origin, false)
  | .config path _ => (path, false)

def picture (host : Host) (request : Request) : IO FileTree := do
  let (path, isDeep) := subject request
  let place := (host.absolute path).collapse
  let tree ← if isDeep then addDeep maxDepth [] place else pure []
  let tree ← addDeep 1 tree (Settings.userFile host)
  let (tree, _) ← addAll tree [place, host.directory, host.home]
  let tree ← place.ancestors.foldlM addMarks tree
  addLog { host with tree := tree }

def widen (host : Host) (probes : List Text) : IO (FileTree × Bool) :=
  addAll host.tree (probes.map fun probe => host.absolute (Path.ofText probe))

-- Runs on pictures that grow until nothing new is probed.
def settled (arguments : List Text) (seconds : Text) : (rounds : Nat) → Host → IO Execution
  | 0, host => return Execution.run host Pool.oneByOne seconds arguments
  | rounds + 1, host => do
    let execution := Execution.run host Pool.oneByOne seconds arguments
    let (tree, grown) ← widen host execution.probes
    if grown then settled arguments seconds rounds { host with tree := tree } else return execution

def secondsText (milliseconds : Nat) : Text :=
  let tenths := (milliseconds + 50) / 100
  Text.ofNat (tenths / 10) ++ Text.ofString "." ++ Text.ofNat (tenths % 10)

def hostHere : IO Host := do
  let directory := Path.ofText (Text.ofString (← IO.currentDir).toString)
  let home := Path.ofText (Text.ofString ((← IO.getEnv "HOME").getD "/"))
  return .bundled [] directory home

def deliver (execution : Execution) : IO UInt32 := do
  let error ← IO.getStderr
  let lines := execution.logLines.map Text.toDisplay
  if let some file := execution.journal then
    let log ← IO.FS.Handle.mk (Text.toDisplay file.text) .append
    lines.forM log.putStrLn
  lines.forM error.putStrLn
  match execution.result with
  | .ok report =>
    (← IO.getStdout).putStr (Text.toDisplay report.output)
    (report.remarks.map Text.toDisplay).forM error.putStrLn
    return report.status.toUInt32
  | .error failure =>
    error.putStrLn (Text.toDisplay failure.message)
    return 1

end CommandLine

end Linkage

open Linkage in
def main (arguments : List String) : IO UInt32 := do
  let arguments := arguments.map Text.ofString
  let start ← IO.monoMsNow
  let host ← CommandLine.hostHere
  let host ← match Invocation.ofArguments arguments with
    | .ok invocation => do
      pure { host with tree := ← CommandLine.picture host invocation.request }
    | .error _ => pure host
  let stop ← IO.monoMsNow
  let seconds := CommandLine.secondsText (stop - start)
  CommandLine.deliver (← CommandLine.settled arguments seconds CommandLine.maxRounds host)
