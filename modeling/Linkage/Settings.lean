import Linkage.Host
import Linkage.Json.Merge
import Linkage.Json.Reader
import Linkage.Setting

set_option autoImplicit false

namespace Linkage

-- Settings as they were written; nothing has checked their types.
abbrev Settings := Json

namespace Settings

def directoryName : Text := Text.ofString ".modgraph"

def fileName : Text := Text.ofString "config.json"

def standardMembers : Members :=
  [("resolver", Json.ofPairs
      [("prefixes", .texts Resolver.defaultTransports),
       ("extensions", .texts Resolver.defaultExtensions)]),
   ("walker", .ofPairs
      [("extensions", .texts Resolver.defaultExtensions), ("jobs", .int 1)]),
   ("logging", .ofPairs [("level", .ofString "INFO"), ("file", .null)]),
   ("ignore", .ofPairs
      [("use_gitignore", .bool true),
       ("builtin_patterns",
        .texts ([".git/", ".modgraph/", "node_modules/"].map Text.ofString)),
       ("additional_patterns", .arr [])])].map fun (key, value) => (Text.ofString key, value)

def standard : Settings := .obj standardMembers

def ofText (t : Text) : Except Failure (Option Members) :=
  match Json.read t with
  | .ok (.obj members) => .ok (some members)
  | .ok _ => .ok none
  | .error .malformed => .ok none
  | .error (.tooManyDigits count) => .error (.tooManyDigits count)

def decoded (content : Bytes) : Except Failure Text :=
  match Utf8.decode content with
  | .ok t => .ok t
  | .error fault => .error (.undecodable fault)

def ofFile (host : Host) (path : Path) : Except Failure (Option Members) := do
  if ← host.isFile path then ofText (← decoded (← host.read path)) else return none

def overlay (host : Host) (path : Path) (base : Members) : Except Failure Members := do
  match ← ofFile host path with
  | some layer => return base.merge layer
  | none => return base

def userFile (host : Host) : Path :=
  ((host.home.child (Text.ofString ".config")).child (Text.ofString "modgraph")).child fileName

def projectFile (root : Path) : Path := (root.child directoryName).child fileName

def load (host : Host) (root : Option Path) : Except Failure Settings := do
  let merged ← overlay host (userFile host) standardMembers
  match root with
  | none => return .obj merged
  | some root => return .obj (← overlay host (projectFile (← host.settle root)) merged)

end Settings

end Linkage
