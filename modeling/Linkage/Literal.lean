import Linkage.Failure
import Linkage.SyntaxTree

set_option autoImplicit false

namespace Linkage

namespace Literal

def pointOf (n : Int) : Except Failure Text :=
  if n < -2147483648 ∨ 2147483647 < n then .error .codePointOverflow
  else if n < 0 then .error .noCodePoint
  else match CodePoint.ofNat? n.toNat with
    | some point => .ok [point]
    | none => .error .noCodePoint

def hexPoint (digits : Text) : Except Failure Text :=
  match Numeral.read? .sixteen digits with
  | some n => pointOf n
  | none => .error (.numeral .sixteen digits)

def isOctal (p : CodePoint) : Bool := 48 ≤ p.val && p.val ≤ 55

def octalValue (digits : Text) : Nat := digits.foldl (fun n d => n * 8 + (d.val - 48)) 0

def controlLetter? : Text → Option Nat
  | [p] =>
    if p.is 'n' then some 10
    else if p.is 't' then some 9
    else if p.is 'r' then some 13
    else if p.is 'b' then some 8
    else if p.is 'f' then some 12
    else if p.is 'v' then some 11
    else none
  | _ => none

def isContinuation : Text → Bool
  | [p] => p.is '\n' || p.is '\r' || p.val == 0x2028 || p.val == 0x2029
  | [p, q] => p.is '\r' && q.is '\n'
  | _ => false

def braced? : Text → Option Text
  | u :: opening :: rest =>
    if u.is 'u' && opening.val == 123 && rest.getLast?.any (·.val == 125) then some rest.dropLast
    else none
  | _ => none

def marked? : Text → Option Text
  | mark :: digit :: rest =>
    if mark.is 'u' || mark.is 'x' then some (digit :: rest) else none
  | _ => none

def escapeBody (body : Text) : Except Failure Text :=
  match braced? body with
  | some digits => hexPoint digits
  | none => match marked? body with
    | some digits => hexPoint digits
    | none =>
      if !body.isEmpty && body.all isOctal then pointOf (octalValue body)
      else match controlLetter? body with
        | some n => .ok [.scalar (Char.ofNat n)]
        | none => if isContinuation body then .ok [] else .ok body

def escape (t : Text) : Except Failure Text := escapeBody (t.drop 1)

def piece (source : Bytes) (n : Node) : Except Failure Text :=
  if n.kind == "escape_sequence" then escape (n.text source)
  else if n.kind == "string_fragment" then .ok (n.text source)
  else .ok []

def pieces (source : Bytes) : List Node → Except Failure Text
  | [] => .ok []
  | n :: rest => do
    let first ← piece source n
    let more ← pieces source rest
    return first ++ more

def value (n : Node) (source : Bytes) : Except Failure Text := pieces source n.namedChildren

end Literal

end Linkage
