import Linkage.Token.Leaf

set_option autoImplicit false

namespace Linkage

namespace Lexer

def operandWords : List String :=
  ["return", "typeof", "instanceof", "in", "new", "delete", "void", "throw", "case", "do", "else",
   "await", "yield", "default"]

def controlWords : List String := ["if", "while", "for", "with"]

def afterDot : List Token → Bool
  | t :: _ => t.isMark "." || t.isMark "?."
  | [] => false

-- Whether braces after these tokens, the last first, hold statements.
def holdsStatements (enclosing : Option Bracket) : List Token → Bool
  | [] => enclosing = none || enclosing = some .curly
  | .group _ .square _ :: _ => false
  | .group _ _ _ :: _ => true
  | .word _ text :: before =>
    text == "else" || text == "do" || !operandWords.contains text || afterDot before
  | .mark _ text :: _ => text == ";" || text == "=>" || text == ">"
  | .string _ _ :: _ => true
  | .plain _ _ :: _ => false

def wantsOperand (enclosing : Option Bracket) : List Token → Bool
  | [] => true
  | .word _ text :: before => operandWords.contains text && !afterDot before
  | .string _ _ :: _ => false
  | .plain _ _ :: _ => false
  | .mark _ text :: before =>
    if text == "++" || text == "--" || text == "!" then
      before.isEmpty || wantsOperand enclosing before
    else true
  | .group _ .round _ :: before =>
    match before with
    | .word _ text :: more => controlWords.contains text && !afterDot more
    | _ => false
  | .group _ .square _ :: _ => false
  | .group _ .curly _ :: before => holdsStatements enclosing before

-- Tokens between brackets, up to the closing one, which is left; and the pieces of source that have
-- tokens inside.
structure Lexed where
  tokens : List Token
  rest : List Glyph

def afterTrivia (glyphs : List Glyph) : List Glyph := (Trivia.skip glyphs.length glyphs).2

def anglesEnd : (depth : Nat) → List Glyph → Option (List Glyph)
  | _, [] => none
  | depth, g :: rest =>
    if g.char = '<' then anglesEnd (depth + 1) rest
    else if g.char = '>' then
      match depth with
      | 0 => some rest
      | depth + 1 => anglesEnd depth rest
    else anglesEnd depth rest

def isTagPart (c : Char) : Bool :=
  Leaf.isNamePart c || c = '-' || c = '.' || c = ':'

def tagName (glyphs : List Glyph) : Option (List Glyph) :=
  match glyphs with
  | first :: _ =>
    if Leaf.isNameStart first.char then
      let rest := glyphs.dropWhile (isTagPart ·.char)
      match rest with
      | g :: after => if g.char = '<' then anglesEnd 0 after else some rest
      | [] => none
    else none
  | [] => none

def expect (c : Char) : List Glyph → Option (List Glyph)
  | g :: rest => if g.char = c then some rest else none
  | [] => none

def attributeText (quote : Char) (glyphs : List Glyph) : Option (List Glyph) :=
  expect quote (glyphs.dropWhile (·.char ≠ quote))

def closingTag (glyphs : List Glyph) : Option (List Glyph) :=
  expect '>' (afterTrivia ((afterTrivia glyphs).dropWhile (isTagPart ·.char)))

mutual

def tokens (markup : Bool) (enclosing : Option Bracket) :
    (fuel : Nat) → (before : List Token) → List Glyph → Lexed
  | 0, before, glyphs => ⟨before.reverse, glyphs⟩
  | fuel + 1, before, glyphs =>
    let (trivia, rest) := Trivia.skip fuel glyphs
    match rest with
    | [] => ⟨before.reverse, []⟩
    | first :: after =>
      if enclosing.any fun b => first.char = b.closing then ⟨before.reverse, rest⟩
      else
        let (token, left) :=
          oneToken markup (wantsOperand enclosing before) fuel (Trivia.gap trivia) first after
        tokens markup enclosing fuel (token :: before) left

def oneToken (markup wantsOperand : Bool) :
    (fuel : Nat) → (gap : Gap) → (first : Glyph) → (after : List Glyph) → Token × List Glyph
  | 0, gap, first, after =>
    (.mark ⟨gap, first.start, first.stop⟩ (String.singleton first.char), after)
  | fuel + 1, gap, first, after =>
    let glyphs := first :: after
    let upTo (left : List Glyph) : Place := ⟨gap, first.start, Leaf.consumedStop glyphs left⟩
    let (text, past) := Leaf.mark first after
    let asMark : Token × List Glyph := (.mark (upTo past) text, past)
    match Bracket.ofOpening? first.char with
    | some bracket =>
      let inside := tokens markup (some bracket) fuel [] after
      let left := inside.rest.drop 1
      (.group (upTo left) bracket inside.tokens, left)
    | none =>
      if Leaf.startsNumber glyphs then
        let left := Leaf.numberEnd (Leaf.isHexNumber glyphs) false glyphs
        (.plain (upTo left) .number, left)
      else if Leaf.startsName glyphs then
        let left := Leaf.nameEnd fuel (if first.char = '#' then after else glyphs)
        let name := glyphs.takeWhile fun g => g.start < (upTo left).stop
        (.word (upTo left) (Glyph.text name), left)
      else if Leaf.isQuote first.char then
        match Leaf.pieces fuel first.char after with
        | some (pieces, stop, left) => (.string ⟨gap, first.start, stop⟩ pieces, left)
        | none => asMark
      else if first.char = Leaf.backquote then
        match template markup fuel after with
        | some left => (.plain (upTo left) .template, left)
        | none => asMark
      else if first.char = '/' ∧ wantsOperand then
        match Leaf.patternEnd false after with
        | some left => (.plain (upTo left) .pattern, left)
        | none => asMark
      else if markup ∧ first.char = '<' ∧ wantsOperand then
        match element fuel after with
        | some left => (.plain (upTo left) .markup, left)
        | none => asMark
      else asMark

def template (markup : Bool) : (fuel : Nat) → List Glyph → Option (List Glyph)
  | 0, _ => none
  | fuel + 1, glyphs =>
    match glyphs with
    | [] => none
    | g :: rest =>
      if g.char = Leaf.backquote then some rest
      else if g.char = '\\' then template markup fuel (rest.drop 1)
      else if g.char = '$' then
        match rest with
        | brace :: after =>
          if brace.char = Leaf.openCurly then
            template markup fuel ((tokens markup (some .curly) fuel [] after).rest.drop 1)
          else template markup fuel rest
        | [] => none
      else template markup fuel rest

def element : (fuel : Nat) → List Glyph → Option (List Glyph)
  | 0, _ => none
  | fuel + 1, glyphs =>
    match expect '>' (afterTrivia glyphs) with
    | some inside => children fuel inside
    | none => do attributes fuel (← tagName (afterTrivia glyphs))

def attributes : (fuel : Nat) → List Glyph → Option (List Glyph)
  | 0, _ => none
  | fuel + 1, glyphs =>
    match afterTrivia glyphs with
    | [] => none
    | g :: rest =>
      if g.char = '/' then expect '>' (afterTrivia rest)
      else if g.char = '>' then children fuel rest
      else if g.char = Leaf.openCurly then do attributes fuel (← embedded fuel rest)
      else if Leaf.isNameStart g.char then
        let past := afterTrivia (rest.dropWhile (isTagPart ·.char))
        match expect '=' past with
        | none => attributes fuel past
        | some value => do attributes fuel (← attributeValue fuel (afterTrivia value))
      else none

def attributeValue : (fuel : Nat) → List Glyph → Option (List Glyph)
  | 0, _ => none
  | fuel + 1, glyphs =>
    match glyphs with
    | [] => none
    | g :: rest =>
      if Leaf.isQuote g.char then attributeText g.char rest
      else if g.char = Leaf.openCurly then embedded fuel rest
      else if g.char = '<' then element fuel rest
      else none

def embedded : (fuel : Nat) → List Glyph → Option (List Glyph)
  | 0, _ => none
  | fuel + 1, glyphs =>
    expect Leaf.closeCurly (tokens true (some .curly) fuel [] glyphs).rest

def children : (fuel : Nat) → List Glyph → Option (List Glyph)
  | 0, _ => none
  | fuel + 1, glyphs =>
    match glyphs with
    | [] => none
    | g :: rest =>
      if g.char = '<' then
        match expect '/' (afterTrivia rest) with
        | some tail => closingTag tail
        | none => do children fuel (← element fuel rest)
      else if g.char = Leaf.openCurly then do children fuel (← embedded fuel rest)
      else if g.char = '>' || g.char = Leaf.closeCurly then none
      else children fuel rest

end

def afterHashBang (glyphs : List Glyph) : List Glyph :=
  match afterTrivia glyphs with
  | a :: b :: rest =>
    if a.char = '#' ∧ b.char = '!' then rest.dropWhile fun g => !Trivia.endsComment g.char
    else glyphs
  | _ => glyphs

end Lexer

def Token.ofSource (markup : Bool) (source : Bytes) : List Token :=
  let glyphs := Lexer.afterHashBang (Glyph.ofBytes source)
  (Lexer.tokens markup none (4 * glyphs.length + 4) [] glyphs).tokens

end Linkage
