import Linkage.Grammar
import Linkage.Statement.Export
import Linkage.Token.Lexer

set_option autoImplicit false

namespace Linkage

namespace Statement

def beginsModuleStatement (t : Token) : Bool :=
  t.gap.lineEnd && (t.isWord "import" || t.isWord "export")

def brokenEnd : (stop : Nat) → List Token → Reading
  | stop, [] => ⟨stop, []⟩
  | stop, t :: rest =>
    if t.isMark ";" then .after t rest
    else if beginsModuleStatement t then ⟨stop, t :: rest⟩
    else brokenEnd t.stop rest

def broken (kind : String) (start : Nat) (keyword : Token) (rest : List Token) : Node × List Token :=
  let reading := brokenEnd keyword.stop rest
  (⟨kind, start, reading.stop, true, none, true, []⟩, reading.rest)

def isExpression : List Token → Bool
  | t :: _ => t.isGroup .round || t.isMark "."
  | [] => false

def importNode (keyword : Token) (rest : List Token) : Node × List Token :=
  match Import.read? (.after keyword rest) with
  | some (kind, nodes, reading) => (.branch kind keyword.start reading.stop nodes, reading.rest)
  | none => broken "import_statement" keyword.start keyword rest

-- An export that begins with decorators begins with the first of them.
def exportNode (start : Nat) (keyword : Token) (rest : List Token) : Node × List Token :=
  match Export.read? (.after keyword rest) with
  | some (nodes, reading) => (.branch "export_statement" start reading.stop nodes, reading.rest)
  | none => broken "export_statement" start keyword rest

def scan : (fuel : Nat) → (afterDot : Bool) → List Token → List Node
  | 0, _, _ => []
  | _ + 1, _, [] => []
  | fuel + 1, afterDot, t :: rest =>
    if t.isMark "@" then
      let undecorated := Definition.decorators (rest.length + 1) ⟨t.start, t :: rest⟩
      match undecorated.rest with
      | keyword :: more =>
        if keyword.isWord "export" then
          let (node, left) := exportNode t.start keyword more
          node :: scan fuel false left
        else scan fuel false rest
      | [] => []
    else if !afterDot && t.isWord "export" then
      let (node, left) := exportNode t.start t rest
      node :: scan fuel false left
    else if !afterDot && t.isWord "import" && !isExpression rest then
      let (node, left) := importNode t rest
      node :: scan fuel false left
    else scan fuel (t.isMark "." || t.isMark "?.") rest

def ofSource (markup : Bool) (source : Bytes) : List Node :=
  let tokens := Token.ofSource markup source
  scan (tokens.length + 1) false tokens

end Statement

-- A parser for well-formed modules that finds their import and export statements.
def Grammar.scan : Parser := fun g source => Statement.ofSource g.hasMarkup source

end Linkage
