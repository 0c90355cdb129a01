import Linkage.Text

set_option autoImplicit false

namespace Linkage

namespace CodePoint

def isBlank (p : CodePoint) : Bool :=
  let n := p.val
  (9 ≤ n && n ≤ 13) || (28 ≤ n && n ≤ 32) || n == 0x85 || n == 0xA0 || n == 0x1680 ||
    (0x2000 ≤ n && n ≤ 0x200A) || n == 0x2028 || n == 0x2029 || n == 0x202F || n == 0x205F ||
    n == 0x3000

def isLineBreak (p : CodePoint) : Bool :=
  let n := p.val
  (10 ≤ n && n ≤ 13) || (28 ≤ n && n ≤ 30) || n == 0x85 || n == 0x2028 || n == 0x2029

-- White space around a numeral: blank, but not one of the separators `0x1C` to `0x1F`.
def isNumeralBlank (p : CodePoint) : Bool :=
  p.isBlank && !(28 ≤ p.val && p.val ≤ 31)

end CodePoint

namespace Text

def dropEndWhile (p : CodePoint → Bool) (t : Text) : Text := (t.reverse.dropWhile p).reverse

def trimEnd (t : Text) : Text := dropEndWhile CodePoint.isBlank t

def trim (t : Text) : Text := trimEnd (t.dropWhile CodePoint.isBlank)

-- The lines of a text after `start`, which is kept backwards. A carriage return and the line feed
-- after it are one line end, and there is no empty line after the last line end.
def linesFrom (start : Text) : Text → List Text
  | [] => if start.isEmpty then [] else [start.reverse]
  | [c] => if c.isLineBreak then [start.reverse] else [(c :: start).reverse]
  | c :: d :: rest =>
    if c.is '\r' && d.is '\n' then start.reverse :: linesFrom [] rest
    else if c.isLineBreak then start.reverse :: linesFrom [] (d :: rest)
    else linesFrom (c :: start) (d :: rest)

def lines (t : Text) : List Text := linesFrom [] t

end Text

end Linkage
