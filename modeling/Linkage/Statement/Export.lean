import Linkage.Statement.Expression
import Linkage.Statement.Import

set_option autoImplicit false

namespace Linkage

namespace Statement.Export

def otherKind : String := "other_declaration"

def otherWords : List String := ["interface", "type", "enum", "namespace", "module"]

def target? (t : Token) : Option Node :=
  match t with
  | .word _ _ => some (.ofToken "identifier" t)
  | .group _ .curly _ => some (.ofToken "object_pattern" t)
  | .group _ .square _ => some (.ofToken "array_pattern" t)
  | _ => none

def unlessEnded (setting : Reading.Setting) (r : Reading) (f : Reading → Option Reading) :
    Option Reading :=
  match r.rest with
  | [] => some r
  | t :: _ => if Reading.endsBefore setting t then some r else f r

def initializer? (r : Reading) : Option (Bool × Reading) := do
  let typed ← unlessEnded .other r fun r => Annotation.readAfterColon .other (r.skipMark "!")
  let valued ← unlessEnded .other typed fun r =>
    match r.mark? "=" with
    | some inside => Expression.read inside
    | none => some r
  return (decide (typed.rest.length ≠ valued.rest.length), valued)

def declarators? : (fuel : Nat) → Reading → Option (List Node × Reading)
  | 0, _ => none
  | fuel + 1, r =>
    match r.rest with
    | [] => none
    | t :: rest => do
      let name ← target? t
      let (hasValue, reading) ← initializer? (.after t rest)
      let node := Node.branch "variable_declarator" t.start reading.stop [name.inField "name"]
      match reading.mark? "," with
      | some inside =>
        let (more, stop) ← declarators? fuel inside
        return (node :: more, stop)
      | none => return ([node], ← reading.finish (if hasValue then .expression else .other))

def variableDeclaration? (keyword : Token) (text : String) (rest : List Token) :
    Option (Node × Reading) := do
  let (nodes, reading) ← declarators? (rest.length + 1) (.after keyword rest)
  let kind := if text == "var" then "variable_declaration" else "lexical_declaration"
  return (.branch kind keyword.start reading.stop (.ofKeyword text keyword :: nodes), reading)

def functionDeclaration? (start : Nat) (r : Reading) : Option (Node × Reading) := do
  let head ← Definition.head? r
  let name ← head.name
  let nameNode := (Node.ofToken "identifier" name).inField "name"
  match Definition.body? head.reading with
  | some body =>
    let kind :=
      if head.isGenerator then "generator_function_declaration" else "function_declaration"
    return (.branch kind start body.stop [nameNode], body)
  | none =>
    if head.isGenerator then none
    else
      let reading ← head.reading.finish .signature
      return (.branch "function_signature" start reading.stop [nameNode], reading)

def classDeclaration? (kind : String) (start : Nat) (r : Reading) : Option (Node × Reading) := do
  let (name, body) ← Definition.class? r
  let nameNode := (Node.ofToken "type_identifier" (← name)).inField "name"
  return (.branch kind start body.stop [nameNode], body)

def nameFollows : List Token → Bool
  | .word place _ :: _ | .string place _ :: _ => !place.gap.lineEnd
  | _ => false

def plainDeclaration? (r : Reading) : Option (Node × Reading) :=
  let undecorated := Definition.decorators (r.rest.length + 1) r
  match undecorated.rest with
  | [] => none
  | t :: rest =>
    match t with
    | .word _ text =>
      if text == "const" || text == "let" || text == "var" then
        if rest.head?.any (·.isWord "enum") then some (.ofToken otherKind t, .after t rest)
        else variableDeclaration? t text rest
      else if text == "class" then classDeclaration? "class_declaration" t.start (.after t rest)
      else if text == "abstract" then do
        classDeclaration? "abstract_class_declaration" t.start
          (← Reading.word? "class" (.after t rest))
      else if otherWords.contains text && nameFollows rest then
        some (.ofToken otherKind t, .after t rest)
      else do functionDeclaration? t.start (← Definition.functionKeyword? undecorated)
    | _ => none

def declaration? (r : Reading) : Option (Node × Reading) :=
  match r.rest with
  | t :: rest =>
    if t.isWord "declare" && nameFollows rest then
      if rest.head?.any (·.isWord "global") then some (.ofToken otherKind t, .after t rest)
      else do
        let (node, reading) ← plainDeclaration? (.after t rest)
        return (.branch "ambient_declaration" t.start reading.stop [node], reading)
    else plainDeclaration? r
  | [] => none

def specifier? (entry : List Token) : Option Node :=
  match entry with
  | [name] => do return Import.entryNode "export_specifier" name name (← Node.ofName? name) none
  | [mark, name] =>
    if Import.isTypeWordToken mark then do
      return Import.entryNode "export_specifier" mark name (← Node.ofName? name) none
    else none
  | [name, word, newName] =>
    if word.isWord "as" && !Import.isTypeWordToken name then do
      return Import.entryNode "export_specifier" name newName (← Node.ofName? name)
        (some (← Node.ofName? newName))
    else none
  | [mark, name, word, newName] =>
    if Import.isTypeWordToken mark && word.isWord "as" then do
      return Import.entryNode "export_specifier" mark newName (← Node.ofName? name)
        (some (← Node.ofName? newName))
    else none
  | _ => none

def clause? (r : Reading) : Option (List Node × Reading) :=
  match r.rest with
  | t :: rest =>
    match t with
    | .group _ .curly inside => do
      let specifiers ← (Import.clauseEntries inside).mapM specifier?
      let clause := Node.branch "export_clause" t.start t.stop specifiers
      let reading : Reading := .after t rest
      match rest with
      | from_ :: _ =>
        if from_.isWord "from" && !Reading.endsBefore .other from_ then
          let (literal, past) ← Import.source? reading
          return ([clause, literal], ← past.finish .other)
        else return ([clause], ← reading.finish .other)
      | [] => return ([clause], reading)
    | _ => none
  | [] => none

def whole? (star : Token) (r : Reading) : Option (List Node × Reading) :=
  match r.rest with
  | word :: name :: rest =>
    if word.isWord "as" then do
      let node := Node.branch "namespace_export" star.start name.stop [← Node.ofName? name]
      let (literal, past) ← Import.source? (.after name rest)
      return ([node, literal], ← past.finish .other)
    else do
      let (literal, past) ← Import.source? r
      return ([.ofKeyword "*" star, literal], ← past.finish .other)
  | _ => none

def default? (keyword : Token) (r : Reading) : Option (List Node × Reading) :=
  let mark := Node.ofKeyword "default" keyword
  match declaration? r with
  | some (node, reading) => some ([mark, node.inField "declaration"], reading)
  | none => do
    let value ← Expression.read r
    let kind := (Expression.definitionKind? value.stop r).getD "expression"
    let start := (r.rest.head?.map (·.start)).getD 0
    return ([mark, (Node.branch kind start value.stop []).inField "value"],
      ← value.finish .expression)

def read? (r : Reading) : Option (List Node × Reading) :=
  match r.rest with
  | [] => none
  | t :: rest =>
    let past : Reading := .after t rest
    match t with
    | .group _ .curly _ => clause? r
    | .mark _ text =>
      if text == "*" then whole? t past
      else if text == "=" then do return ([], ← (← Expression.read past).finish .expression)
      else declared
    | .word _ text =>
      if text == "default" then default? t past
      else if text == "type" && rest.head?.any (·.isGroup .curly) then clause? past
      else if text == "as" then do
        let (name, reading) := Definition.name? (← past.word? "namespace")
        let _ ← name
        return ([], ← reading.finish .other)
      else if text == "import" then
        match Import.equation? past with
        | some (kind, _, reading) =>
          if kind == "import_alias" then do return ([], ← reading.finish .other) else none
        | none => none
      else declared
    | _ => none
where
  declared : Option (List Node × Reading) := do
    let (node, reading) ← declaration? r
    return ([node.inField "declaration"], reading)

end Statement.Export

end Linkage
