import Linkage.Token

set_option autoImplicit false

namespace Linkage

namespace Trivia

def isSpace (c : Char) : Bool :=
  let n := c.toNat
  (9 ≤ n && n ≤ 13) || (0x2000 ≤ n && n ≤ 0x200B) ||
    [0x20, 0x85, 0xA0, 0x1680, 0x2028, 0x2029, 0x202F, 0x205F, 0x2060, 0x3000, 0xFEFF].contains n

def endsLine (c : Char) : Bool := c = '\n' || c.toNat = 0x2028 || c.toNat = 0x2029

def endsComment (c : Char) : Bool := endsLine c || c = '\r'

inductive Item where
  | blank (lineEnd : Bool)
  | lineComment
  | blockComment (lineEnd : Bool)
deriving DecidableEq

def skipBlock : List Glyph → Bool × List Glyph
  | [] => (false, [])
  | a :: rest =>
    match rest with
    | b :: after =>
      if a.char = '*' ∧ b.char = '/' then (false, after)
      else
        let (lineEnd, left) := skipBlock rest
        (endsLine a.char || lineEnd, left)
    | [] => (endsLine a.char, [])

def item? : List Glyph → Option (Item × List Glyph)
  | a :: b :: rest =>
    if isSpace a.char then some (.blank (endsLine a.char), b :: rest)
    else if a.char = '/' ∧ b.char = '/' then
      some (.lineComment, rest.dropWhile fun g => !endsComment g.char)
    else if a.char = '/' ∧ b.char = '*' then
      let (lineEnd, left) := skipBlock rest
      some (.blockComment lineEnd, left)
    else none
  | [a] => if isSpace a.char then some (.blank (endsLine a.char), []) else none
  | [] => none

def skip : (fuel : Nat) → List Glyph → List Item × List Glyph
  | 0, glyphs => ([], glyphs)
  | fuel + 1, glyphs =>
    match item? glyphs with
    | none => ([], glyphs)
    | some (item, rest) =>
      let (items, left) := skip fuel rest
      (item :: items, left)

def reachesToken : List Item → Bool
  | [] => true
  | .blank _ :: _ => false
  | .lineComment :: _ => true
  | .blockComment _ :: rest => reachesToken rest

def afterLineComment : List Item → Option Bool
  | [] => some true
  | .blank _ :: rest | .lineComment :: rest => afterLineComment rest
  | .blockComment true :: rest => some (reachesToken rest)
  | .blockComment false :: rest =>
    match rest with
    | .lineComment :: _ | .blockComment _ :: _ => afterLineComment rest
    | _ => none

def comment : List Item → Option Bool
  | [] => none
  | .blank lineEnd :: rest => if lineEnd then none else comment rest
  | .lineComment :: rest => afterLineComment rest
  | .blockComment lineEnd :: rest => if lineEnd then some (reachesToken rest) else comment rest

def gap (items : List Item) : Gap :=
  ⟨items.any fun i => i = .blank true, comment items⟩

end Trivia

end Linkage
