import Linkage.Failure
import Linkage.Path
import Linkage.Text.Utf8

set_option autoImplicit false

namespace Linkage

inductive Entry where
  | file (content : Bytes)
  | directory (entries : List (Text × Entry))

abbrev FileTree := List (Text × Entry)

namespace Entry

def isFile : Entry → Bool
  | .file _ => true
  | .directory _ => false

def isDirectory (entry : Entry) : Bool := !entry.isFile

end Entry

namespace FileTree

def entry? (name : Text) : FileTree → Option Entry
  | [] => none
  | (other, entry) :: rest => if other = name then some entry else entry? name rest

-- How many bytes a name takes; an undecoded byte is kept as a surrogate.
def nameSize : Text → Nat
  | [] => 0
  | .scalar c :: rest => c.utf8Size + nameSize rest
  | .surrogate _ :: rest => 1 + nameSize rest

def maxNameSize : Nat := 255

-- The entry that components lead to from `here`, below the directories `above`.
def follow (here : Entry) (above : List Entry) : List Text → Except DiskFault Entry
  | [] => .ok here
  | part :: parts =>
    match here with
    | .file _ => .error .notDirectory
    | .directory entries =>
      if part = Path.dotDot then
        match above with
        | [] => follow here [] parts
        | up :: more => follow up more parts
      else if maxNameSize < nameSize part then .error .nameTooLong
      else match entry? part entries with
        | none => .error .missing
        | some next => follow next (here :: above) parts

def find (tree : FileTree) (parts : List Text) : Except DiskFault Entry :=
  follow (.directory tree) [] parts

def setEntry (name : Text) (fresh : Entry) : FileTree → FileTree
  | [] => [(name, fresh)]
  | (other, entry) :: rest =>
    if other = name then (name, fresh) :: rest else (other, entry) :: setEntry name fresh rest

theorem entry?_setEntry_self (name : Text) (fresh : Entry) (tree : FileTree) :
    entry? name (setEntry name fresh tree) = some fresh := by
  induction tree with
  | nil => simp [setEntry, entry?]
  | cons first rest ih =>
    obtain ⟨other, entry⟩ := first
    by_cases same : other = name <;> simp [setEntry, entry?, same, ih]

theorem entry?_setEntry_of_ne {name query : Text} (different : query ≠ name) (fresh : Entry)
    (tree : FileTree) : entry? query (setEntry name fresh tree) = entry? query tree := by
  induction tree with
  | nil => simp [setEntry, entry?, different.symm]
  | cons first rest ih =>
    obtain ⟨other, entry⟩ := first
    by_cases same : other = name
    · subst same
      simp [setEntry, entry?, different.symm]
    · simp [setEntry, entry?, same, ih]

def entriesOf (name : Text) (tree : FileTree) : FileTree :=
  match entry? name tree with
  | some (.directory entries) => entries
  | _ => []

def put (tree : FileTree) (fresh : Entry) : List Text → FileTree
  | [] => tree
  | [name] => setEntry name fresh tree
  | name :: part :: parts =>
    setEntry name (.directory (put (entriesOf name tree) fresh (part :: parts))) tree

def erase (tree : FileTree) : List Text → FileTree
  | [] => tree
  | [name] => tree.filter fun (other, _) => other ≠ name
  | name :: part :: parts =>
    match entry? name tree with
    | some (.directory entries) => setEntry name (.directory (erase entries (part :: parts))) tree
    | _ => tree

mutual

def files (here : Path) : Entry → List Path
  | .file _ => [here]
  | .directory entries => filesIn here entries

def filesIn (here : Path) : List (Text × Entry) → List Path
  | [] => []
  | (name, entry) :: rest => files (here.child name) entry ++ filesIn here rest

end

mutual

-- All paths below a place: those of a directory's own entries come before those further down.
def within (here : Path) : Entry → List Path
  | .file _ => []
  | .directory entries => entries.map (fun (name, _) => here.child name) ++ withinEach here entries

def withinEach (here : Path) : List (Text × Entry) → List Path
  | [] => []
  | (name, entry) :: rest => within (here.child name) entry ++ withinEach here rest

end

end FileTree

end Linkage
