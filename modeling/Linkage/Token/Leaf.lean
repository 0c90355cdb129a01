import Linkage.Token.Trivia

set_option autoImplicit false

namespace Linkage

namespace Leaf

def singleQuote : Char := Char.ofNat 39

def doubleQuote : Char := Char.ofNat 34

def backquote : Char := Char.ofNat 96

def openCurly : Char := Char.ofNat 123

def closeCurly : Char := Char.ofNat 125

def isQuote (c : Char) : Bool := c = singleQuote || c = doubleQuote

def punctuation : List Char :=
  [singleQuote, doubleQuote, backquote, openCurly, closeCurly] ++ ":;@#.,|^&<=>+-*/\\%?!~()[]".toList

def isNamePart (c : Char) : Bool :=
  31 < c.toNat && !Trivia.isSpace c && !punctuation.contains c

def isNameStart (c : Char) : Bool := isNamePart c && !c.isDigit

def isHexDigit (c : Char) : Bool :=
  c.isDigit || ('a' ≤ c && c ≤ 'f') || ('A' ≤ c && c ≤ 'F')

def isOctalDigit (c : Char) : Bool := '0' ≤ c && c ≤ '7'

def stopOf (fallback : Nat) (glyphs : List Glyph) : Nat := (glyphs.getLast?.map (·.stop)).getD fallback

def hexRun : Nat → List Glyph → Option (List Glyph)
  | 0, glyphs => some glyphs
  | count + 1, glyphs =>
    match glyphs with
    | g :: rest => if isHexDigit g.char then hexRun count rest else none
    | [] => none

def bracedRun (glyphs : List Glyph) : Option (List Glyph) :=
  match glyphs.takeWhile (isHexDigit ·.char), glyphs.dropWhile (isHexDigit ·.char) with
  | _ :: _, close :: rest => if close.char = closeCurly then some rest else none
  | _, _ => none

def escapeEnd : List Glyph → Option (List Glyph)
  | [] => none
  | a :: rest =>
    if a.char = 'x' then hexRun 2 rest
    else if a.char = 'u' then
      match rest with
      | b :: after => if b.char = openCurly then bracedRun after else hexRun 4 rest
      | [] => none
    else if isOctalDigit a.char then
      let more := (rest.take 2).takeWhile (isOctalDigit ·.char)
      some (rest.drop more.length)
    else if a.char = '\r' ∨ a.char = '?' then
      match rest with
      | b :: after => if Trivia.endsLine b.char then some after else some rest
      | [] => some rest
    else some rest

def consumedStop (glyphs left : List Glyph) : Nat :=
  match left with
  | next :: _ => next.start
  | [] => stopOf 0 glyphs

def pieces : (fuel : Nat) → (quote : Char) → List Glyph → Option (List Piece × Nat × List Glyph)
  | 0, _, _ => none
  | fuel + 1, quote, glyphs =>
    match glyphs with
    | [] => none
    | g :: rest =>
      if g.char = quote then some ([], g.stop, rest)
      else if g.char = '\\' then do
        let left ← escapeEnd rest
        let piece : Piece := ⟨true, g.start, consumedStop rest left⟩
        let (more, stop, after) ← pieces fuel quote left
        return (piece :: more, stop, after)
      else
        let isPlain (p : Glyph) : Bool :=
          p.char ≠ quote && p.char ≠ '\\' && p.char ≠ '\n' && p.char ≠ '\r'
        if isPlain g then do
          let run := glyphs.takeWhile isPlain
          let (more, stop, after) ← pieces fuel quote (glyphs.dropWhile isPlain)
          return (⟨false, g.start, stopOf g.stop run⟩ :: more, stop, after)
        else none

-- What follows the closing slash of a pattern; a slash between square brackets does not close.
def patternEnd : (inClass : Bool) → List Glyph → Option (List Glyph)
  | _, [] => none
  | inClass, g :: rest =>
    if Trivia.endsComment g.char then none
    else if g.char = '\\' then
      match rest with
      | escaped :: after => if Trivia.endsComment escaped.char then none else patternEnd inClass after
      | [] => none
    else if inClass then patternEnd (g.char ≠ ']') rest
    else if g.char = '[' then patternEnd true rest
    else if g.char = '/' then some (rest.dropWhile (isNamePart ·.char))
    else patternEnd false rest

def numberEnd (hex : Bool) : (afterExponent : Bool) → List Glyph → List Glyph
  | _, [] => []
  | afterExponent, g :: rest =>
    if isNamePart g.char || g.char = '.' then
      numberEnd hex (!hex && (g.char = 'e' || g.char = 'E')) rest
    else if afterExponent && (g.char = '+' || g.char = '-') then numberEnd hex false rest
    else g :: rest

def isHexNumber : List Glyph → Bool
  | a :: b :: _ => a.char = '0' && (b.char = 'x' || b.char = 'X')
  | _ => false

def startsNumber : List Glyph → Bool
  | a :: rest => a.char.isDigit || (a.char = '.' && rest.head?.any (·.char.isDigit))
  | [] => false

def nameEscape? : List Glyph → Option (List Glyph)
  | a :: b :: c :: rest =>
    if a.char = '\\' ∧ b.char = 'u' then
      if c.char = openCurly then bracedRun rest else hexRun 4 (c :: rest)
    else none
  | _ => none

def nameEnd : (fuel : Nat) → List Glyph → List Glyph
  | 0, glyphs => glyphs
  | fuel + 1, glyphs =>
    match glyphs with
    | [] => []
    | g :: rest =>
      if isNamePart g.char then nameEnd fuel rest
      else match nameEscape? glyphs with
        | some left => nameEnd fuel left
        | none => glyphs

def startsName (glyphs : List Glyph) : Bool :=
  match glyphs with
  | a :: rest =>
    isNameStart a.char || (a.char = '#' && rest.head?.any (isNameStart ·.char)) ||
      (nameEscape? glyphs).isSome
  | [] => false

-- The marks of several characters, longer ones first. A closing angle never joins what follows it.
def marks : List String :=
  ["===", "!==", "...", "**=", "<<=", "&&=", "||=", "??=",
   "=>", "==", "!=", "<=", "++", "--", "&&", "||", "??", "?.", "**", "<<",
   "+=", "-=", "*=", "/=", "%=", "&=", "|=", "^="]

def stripChars : List Char → List Glyph → Option (List Glyph)
  | [], glyphs => some glyphs
  | _ :: _, [] => none
  | c :: cs, g :: rest => if g.char = c then stripChars cs rest else none

def markOf : List String → List Glyph → Option (String × List Glyph)
  | [], _ => none
  | m :: more, glyphs =>
    match stripChars m.toList glyphs with
    | some rest =>
      if m == "?." && rest.head?.any (·.char.isDigit) then markOf more glyphs else some (m, rest)
    | none => markOf more glyphs

def mark (first : Glyph) (rest : List Glyph) : String × List Glyph :=
  (markOf marks (first :: rest)).getD (String.singleton first.char, rest)

end Leaf

end Linkage
