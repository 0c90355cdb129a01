import Linkage.Span

set_option autoImplicit false

namespace Linkage

structure Glyph where
  char : Char
  start : Nat
  stop : Nat
deriving DecidableEq, Inhabited

namespace Glyph

-- The characters of a source from an offset on; U+FFFD stands for what is not UTF-8.
def place (offset : Nat) : List Utf8.Segment → List Glyph
  | [] => []
  | segment :: rest =>
    let stop := offset + segment.bytes.length
    let char := match segment with
      | .point c _ => c
      | .broken _ _ => Char.ofNat 0xFFFD
    ⟨char, offset, stop⟩ :: place stop rest

def ofBytes (source : Bytes) : List Glyph := place 0 (Utf8.segments source)

def text (glyphs : List Glyph) : String := String.ofList (glyphs.map (·.char))

end Glyph

structure Gap where
  lineEnd : Bool
  -- A comment ends a line before any such line end does; the value tells whether the token comes right
  -- after the comments and blanks that belong to it.
  comment : Option Bool
deriving DecidableEq, Inhabited

structure Place where
  gap : Gap
  start : Nat
  stop : Nat
deriving DecidableEq, Inhabited

structure Piece where
  isEscape : Bool
  start : Nat
  stop : Nat
deriving DecidableEq

inductive Bracket where
  | round
  | square
  | curly
deriving DecidableEq

namespace Bracket

def closing : Bracket → Char
  | .round => ')'
  | .square => ']'
  | .curly => Char.ofNat 125

def ofOpening? (c : Char) : Option Bracket :=
  if c = '(' then some .round
  else if c = '[' then some .square
  else if c = Char.ofNat 123 then some .curly
  else none

end Bracket

inductive Plain where
  | number
  | template
  | pattern
  | markup
deriving DecidableEq

inductive Token where
  | word (place : Place) (text : String)
  | string (place : Place) (pieces : List Piece)
  | plain (place : Place) (kind : Plain)
  | mark (place : Place) (text : String)
  | group (place : Place) (bracket : Bracket) (inside : List Token)
deriving Inhabited

namespace Token

def place : Token → Place
  | .word place _ | .string place _ | .plain place _ | .mark place _ | .group place _ _ => place

def start (t : Token) : Nat := t.place.start

def stop (t : Token) : Nat := t.place.stop

def gap (t : Token) : Gap := t.place.gap

def isWord (t : Token) (text : String) : Bool :=
  match t with
  | .word _ w => w == text
  | _ => false

def isMark (t : Token) (text : String) : Bool :=
  match t with
  | .mark _ m => m == text
  | _ => false

def isGroup (t : Token) (bracket : Bracket) : Bool :=
  match t with
  | .group _ b _ => b == bracket
  | _ => false

def firstChar? : Token → Option Char
  | .word _ text | .mark _ text => text.toList.head?
  | _ => none

end Token

end Linkage
