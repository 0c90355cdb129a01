import Linkage.FileTree
import Linkage.Grammar
import Linkage.Ignore
import Linkage.Resolver

set_option autoImplicit false

namespace Linkage

-- The disk that a run meets, and the parser and the pattern reader that it is linked with.
structure Host where
  tree : FileTree
  directory : Path
  home : Path
  parse : Parser
  compile : PatternReader

namespace Path

-- Whether a code point has bytes in a file name: a surrogate has if it stands for a byte that is no
-- text.
def isEncodable : CodePoint → Bool
  | .scalar _ => true
  | .surrogate offset => 0x480 ≤ offset.val && offset.val ≤ 0x4FF

def isSurrogate : CodePoint → Bool
  | .scalar _ => false
  | .surrogate _ => true

def unencodable? (place : Nat) : Text → Option (CodePoint × Nat × Nat)
  | [] => none
  | p :: rest =>
    if isEncodable p then unencodable? (place + 1) rest
    else some (p, place, (rest.takeWhile isSurrogate).length)

def check (t : Text) : Except Failure Unit :=
  match unencodable? 0 t with
  | some (point, place, more) => .error (.unencodablePath point place more)
  | none => if t.any (·.val == 0) then .error .nulInPath else .ok ()

def maxSize : Nat := 4095

end Path

namespace Host

variable (host : Host)

def absolute (path : Path) : Path := host.directory.below path

def entry (path : Path) : Except Failure Entry := do
  Path.check path.text
  if Path.maxSize < FileTree.nameSize path.text then .error (.disk .nameTooLong path.text)
  else match host.tree.find (host.absolute path).parts with
    | .ok entry => .ok entry
    | .error fault => .error (.disk fault path.text)

def entry? (path : Path) : Except Failure (Option Entry) :=
  match host.entry path with
  | .ok entry => .ok (some entry)
  | .error (.disk .missing _) | .error (.disk .notDirectory _) => .ok none
  | .error failure => .error failure

-- What is at a path, or nothing, also where no disk can hold such a path.
def look (path : Path) : Except Failure (Option Entry) :=
  match host.entry? path with
  | .error .nulInPath | .error (.unencodablePath ..) => .ok none
  | answer => answer

def isFile (path : Path) : Except Failure Bool := do return (← host.look path).any Entry.isFile

def regular : List Path → Except Failure (List Path)
  | [] => .ok []
  | path :: rest => do
    let isFile ← host.isFile path
    let others ← regular rest
    return if isFile then path :: others else others

def isDirectory (path : Path) : Except Failure Bool := do
  return (← host.look path).any Entry.isDirectory

def holds (path : Path) : Except Failure Bool := do return (← host.look path).isSome

def disk : Disk := fun path => do return (← host.entry? (Path.ofText path)).any Entry.isFile

def read (path : Path) : Except Failure Bytes := do
  match ← host.entry path with
  | .file content => .ok content
  | .directory _ => .error (.disk .isDirectory path.text)

-- Whether a file can be opened to append to it. It is made where only its name is missing.
def canAppend (path : Path) : Except Failure Unit := do
  match ← host.entry? path with
  | some (.file _) => return ()
  | some (.directory _) => .error (.disk .isDirectory path.text)
  | none =>
    match host.tree.find (host.absolute path).parts.dropLast with
    | .ok (.directory _) => return ()
    | .ok (.file _) => .error (.disk .notDirectory path.text)
    | .error fault => .error (.disk fault path.text)

def append (path : Path) (content : Bytes) : Host :=
  let old := match host.entry? path with
    | .ok (some (.file bytes)) => bytes
    | _ => []
  { host with tree := host.tree.put (.file (old ++ content)) (host.absolute path).parts }

-- One component more while a path is settled; every place on the way is looked at.
def settleStep (root : Path.Root) (stack : List Text) (part : Text) : Except Failure (List Text) := do
  if part ≠ Path.dotDot then Path.check (Path.text ⟨root, (part :: stack).reverse⟩)
  return Path.push (root ≠ .none) stack part

def settle (path : Path) : Except Failure Path := do
  let root : Path.Root := if path.isAbsolute then .slash else .none
  let stack ← path.parts.foldlM (settleStep root) []
  return (host.absolute ⟨root, stack.reverse⟩).collapse

end Host

end Linkage
