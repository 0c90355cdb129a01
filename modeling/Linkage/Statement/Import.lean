import Linkage.Statement.Reading

set_option autoImplicit false

namespace Linkage

namespace Statement.Import

def isTypeWord (text : String) : Bool := text == "type" || text == "typeof"

def isTypeWordToken (t : Token) : Bool :=
  match t with
  | .word _ text => isTypeWord text
  | _ => false

def entries : List Token → List (List Token)
  | [] => []
  | t :: rest =>
    if t.isMark "," then
      match rest with
      | [] => [[]]
      | _ => [] :: entries rest
    else match entries rest with
      | [] => [[t]]
      | entry :: more => (t :: entry) :: more

-- The entries of a clause. A comma may stand alone or after the last entry, and nowhere else.
def clauseEntries (inside : List Token) : List (List Token) :=
  match inside with
  | [comma] => if comma.isMark "," then [] else entries inside
  | _ => entries inside

def entryNode (kind : String) (first last : Token) (name : Node) (newName : Option Node) : Node :=
  .branch kind first.start last.stop
    (name.inField "name" :: (newName.map (·.inField "alias")).toList)

def isPlainName (t : Token) : Bool :=
  match t with
  | .word _ _ => true
  | _ => false

def specifier? (entry : List Token) : Option Node :=
  match entry with
  | [name] =>
    if isPlainName name && !isTypeWordToken name && !name.isWord "default" then
      some (entryNode "import_specifier" name name (.ofToken "identifier" name) none)
    else none
  | [mark, name] =>
    if isTypeWordToken mark && isPlainName name && !name.isWord "as" && !name.isWord "default" &&
        !name.isWord "type" then
      some (entryNode "import_specifier" mark name (.ofToken "identifier" name) none)
    else none
  | [name, word, newName] =>
    if word.isWord "as" && isPlainName newName && !name.isWord "typeof" then do
      return entryNode "import_specifier" name newName (← Node.ofName? name)
        (some (.ofToken "identifier" newName))
    else none
  | [mark, name, word, newName] =>
    if isTypeWordToken mark && word.isWord "as" && isPlainName newName && !name.isWord "as" then do
      return entryNode "import_specifier" mark newName (← Node.ofName? name)
        (some (.ofToken "identifier" newName))
    else none
  | _ => none

def namedImports? (t : Token) (inside : List Token) : Option Node := do
  return .branch "named_imports" t.start t.stop (← (clauseEntries inside).mapM specifier?)

def names? (r : Reading) : Option (Node × Reading) :=
  match r.rest with
  | t :: rest =>
    match t with
    | .group _ .curly inside => do return (← namedImports? t inside, .after t rest)
    | .mark _ _ =>
      match rest with
      | word :: name :: more =>
        if t.isMark "*" && word.isWord "as" && isPlainName name then
          some (.branch "namespace_import" t.start name.stop [.ofToken "identifier" name],
            .after name more)
        else none
      | _ => none
    | _ => none
  | [] => none

def clause? (r : Reading) : Option (List Node × Reading) :=
  match r.rest with
  | t :: rest =>
    if isPlainName t then
      let name := Node.ofToken "identifier" t
      let named : Reading := .after t rest
      match named.mark? "," with
      | some inside => do
        let (more, reading) ← names? inside
        return ([name, more], reading)
      | none => some ([name], named)
    else do
      let (node, reading) ← names? r
      return ([node], reading)
  | [] => none

def string? (r : Reading) : Option (Node × Reading) :=
  match r.rest with
  | t :: rest =>
    match t with
    | .string _ pieces => some (Node.ofString t pieces, .after t rest)
    | _ => none
  | [] => none

def source? (r : Reading) : Option (Node × Reading) := do
  let (literal, reading) ← string? (← r.word? "from")
  return (literal.inField "source", reading)

def skipAttributes (r : Reading) : Reading :=
  match r.rest with
  | word :: group :: more =>
    if (word.isWord "with" || word.isWord "assert") && group.isGroup .curly &&
        !Reading.endsBefore .other word then .after group more
    else r
  | _ => r

def isTypeName : List Token → Bool
  | next :: rest =>
    next.isMark "," || next.isMark "=" ||
      (next.isWord "from" && match rest with
        | .string _ _ :: _ => true
        | _ => false)
  | [] => false

-- Reads the word that makes an import one of types only, if it is there.
def skipTypeWord (r : Reading) : Reading :=
  match r.rest with
  | t :: rest =>
    if t.isWord "typeof" || (t.isWord "type" && !isTypeName rest) then .after t rest else r
  | [] => r

def members : List Token → Nat → Reading
  | dot :: name :: rest, stop =>
    if dot.isMark "." && isPlainName name then members rest name.stop else ⟨stop, dot :: name :: rest⟩
  | rest, stop => ⟨stop, rest⟩

def equation? (r : Reading) : Option (String × List Node × Reading) :=
  match r.rest with
  | name :: equals :: value :: rest =>
    if isPlainName name && equals.isMark "=" && isPlainName value then
      match rest with
      | .group place .round inside :: more =>
        match inside with
        | [.string _ _] =>
          if value.isWord "require" then
            some ("import_statement",
              [.branch "import_require_clause" name.start place.stop []], ⟨place.stop, more⟩)
          else none
        | _ => none
      | _ => some ("import_alias", [], members rest value.stop)
    else none
  | _ => none

def read? (r : Reading) : Option (String × List Node × Reading) :=
  let inside := skipTypeWord r
  match equation? inside with
  | some (kind, nodes, reading) => do return (kind, nodes, ← reading.finish .other)
  | none =>
    match string? inside with
    | some (literal, reading) => do
      let stop ← (skipAttributes reading).finish .other
      return ("import_statement", [literal.inField "source"], stop)
    | none => do
      let (parts, afterClause) ← clause? inside
      let (literal, reading) ← source? afterClause
      let stop ← (skipAttributes reading).finish .other
      let first := (parts.head?.map (·.start)).getD 0
      let last := (parts.getLast?.map (·.stop)).getD 0
      return ("import_statement",
        [⟨"import_clause", first, last, true, none, false, parts⟩, literal], stop)

end Statement.Import

end Linkage
