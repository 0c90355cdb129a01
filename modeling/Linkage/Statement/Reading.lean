import Linkage.SyntaxTree
import Linkage.Token

set_option autoImplicit false

namespace Linkage

namespace Statement

structure Reading where
  stop : Nat
  rest : List Token

namespace Reading

def after (t : Token) (rest : List Token) : Reading := ⟨t.stop, rest⟩

def word? (text : String) (r : Reading) : Option Reading :=
  match r.rest with
  | t :: rest => if t.isWord text then some (after t rest) else none
  | [] => none

def mark? (text : String) (r : Reading) : Option Reading :=
  match r.rest with
  | t :: rest => if t.isMark text then some (after t rest) else none
  | [] => none

def skipMark (text : String) (r : Reading) : Reading := (r.mark? text).getD r

inductive Setting where
  | expression
  | signature
  | other
deriving DecidableEq

def carryOn : List Char := [',', '.', ';', '*', '%', '>', '<', '=', '?', '^', '|', '&', '/', ':']

def beginsStatement (setting : Setting) (t : Token) : Bool :=
  match t with
  | .word _ text => text != "in" && text != "instanceof"
  | .string _ _ => true
  | .plain _ kind => kind = .number
  | .mark _ text =>
    match text.toList with
    | '+' :: more => more.head? == some '+'
    | '-' :: more => more.head? == some '-'
    | '!' :: more => more.head? != some '='
    | c :: _ => !carryOn.contains c
    | [] => true
  | .group _ .curly _ => setting ≠ .signature
  | .group _ _ _ => setting ≠ .expression

-- Whether a statement ends before a token without a semicolon. A comment that ends a line does so at
-- once, except in an expression, unless a comma or an equals sign follows it.
def endsBefore (setting : Setting) (t : Token) : Bool :=
  match t.gap.comment with
  | some touching =>
    if setting = .expression then t.gap.lineEnd && beginsStatement setting t
    else !(touching && (t.firstChar? == some ',' || t.firstChar? == some '='))
  | none => t.gap.lineEnd && beginsStatement setting t

def finish (setting : Setting) (r : Reading) : Option Reading :=
  match r.rest with
  | [] => some r
  | t :: rest =>
    if endsBefore setting t then some r
    else if t.isMark ";" then some (after t rest)
    else none

def closeAngles (admits : Token → Bool) : (depth : Nat) → List Token → Option Reading
  | _, [] => none
  | depth, t :: rest =>
    if t.isMark "<" then closeAngles admits (depth + 1) rest
    else if t.isMark ">" then
      match depth with
      | 0 => some (after t rest)
      | depth + 1 => closeAngles admits depth rest
    else if admits t then closeAngles admits depth rest
    else none

def skipAngles (r : Reading) : Option Reading :=
  match r.rest with
  | t :: rest =>
    if t.isMark "<" then closeAngles (fun t => !t.isMark ";") 0 rest else some r
  | [] => some r

end Reading

end Statement

namespace Node

def ofToken (kind : String) (t : Token) : Node := ⟨kind, t.start, t.stop, true, none, false, []⟩

def ofKeyword (kind : String) (t : Token) : Node := ⟨kind, t.start, t.stop, false, none, false, []⟩

def branch (kind : String) (start stop : Nat) (children : List Node) : Node :=
  ⟨kind, start, stop, true, none, false, children⟩

def inField (n : Node) (field : String) : Node := { n with field := some field }

def ofPiece (p : Piece) : Node :=
  ⟨if p.isEscape then "escape_sequence" else "string_fragment", p.start, p.stop, true, none, false,
    []⟩

def ofString (t : Token) (pieces : List Piece) : Node :=
  branch "string" t.start t.stop (pieces.map ofPiece)

def ofName? (t : Token) : Option Node :=
  match t with
  | .word _ _ => some (ofToken "identifier" t)
  | .string _ pieces => some (ofString t pieces)
  | _ => none

end Node

end Linkage
