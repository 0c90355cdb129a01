import Linkage.Text.Printable

set_option autoImplicit false

namespace Linkage

namespace Text

def hexDigits : (width : Nat) → Nat → Text
  | 0, _ => []
  | width + 1, n => hexDigits width (n / 16) ++ [.scalar (Nat.digitChar (n % 16))]

def backslash : CodePoint := .scalar '\\'

def numberEscape (n : Nat) : Text :=
  if n < 0x100 then [backslash, .scalar 'x'] ++ hexDigits 2 n
  else if n < 0x10000 then [backslash, .scalar 'u'] ++ hexDigits 4 n
  else [backslash, .scalar 'U'] ++ hexDigits 8 n

def quotedPoint (quote : Char) (p : CodePoint) : Text :=
  if p.is quote || p.is '\\' then [backslash, p]
  else if p.is '\n' then [backslash, .scalar 'n']
  else if p.is '\r' then [backslash, .scalar 'r']
  else if p.is '\t' then [backslash, .scalar 't']
  else if p.isPrintable then [p]
  else numberEscape p.val

def singleQuote : Char := Char.ofNat 39

def doubleQuote : Char := Char.ofNat 34

def quoteFor (t : Text) : Char :=
  if t.any (·.is singleQuote) && !t.any (·.is doubleQuote) then doubleQuote else singleQuote

def quoted (t : Text) : Text :=
  let quote := quoteFor t
  .scalar quote :: t.flatMap (quotedPoint quote) ++ [.scalar quote]

end Text

end Linkage
