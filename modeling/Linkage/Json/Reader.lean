import Linkage.Json
import Linkage.Text.Numeral

set_option autoImplicit false

namespace Linkage

namespace Json

inductive ReadFault where
  | malformed
  | tooManyDigits (count : Nat)
deriving DecidableEq

def isSpace (p : CodePoint) : Bool := p.is ' ' || p.is '\t' || p.is '\n' || p.is '\r'

def skipSpace (t : Text) : Text := t.dropWhile isSpace

def hex4? : Text → Option (Nat × Text)
  | a :: b :: c :: d :: rest => do
    let a ← a.hexValue?
    let b ← b.hexValue?
    let c ← c.hexValue?
    let d ← d.hexValue?
    return (((a * 16 + b) * 16 + c) * 16 + d, rest)
  | _ => none

-- The unit after `\u` is joined with a low surrogate written right after a high one.
def unicodeEscape? (t : Text) : Option (CodePoint × Text) := do
  let (unit, rest) ← hex4? t
  let alone ← CodePoint.ofNat? unit
  if 0xD800 ≤ unit && unit ≤ 0xDBFF then
    match rest with
    | backslash :: u :: more =>
      if backslash.is '\\' && u.is 'u' then
        let (low, after) ← hex4? more
        if 0xDC00 ≤ low && low ≤ 0xDFFF then
          let joined ← CodePoint.ofNat? (0x10000 + (unit - 0xD800) * 1024 + (low - 0xDC00))
          return (joined, after)
        else return (alone, rest)
      else return (alone, rest)
    | _ => return (alone, rest)
  else return (alone, rest)

def simpleEscape? (p : CodePoint) : Option Char :=
  if p.val == 34 then some (Char.ofNat 34)
  else if p.is '\\' then some '\\'
  else if p.is '/' then some '/'
  else if p.is 'b' then some (Char.ofNat 8)
  else if p.is 'f' then some (Char.ofNat 12)
  else if p.is 'n' then some '\n'
  else if p.is 'r' then some '\r'
  else if p.is 't' then some '\t'
  else none

def readString : (fuel : Nat) → Text → Except ReadFault (Text × Text)
  | 0, _ => .error .malformed
  | _ + 1, [] => .error .malformed
  | fuel + 1, p :: rest =>
    if p.val == 34 then .ok ([], rest)
    else if p.val < 32 then .error .malformed
    else if p.is '\\' then
      match rest with
      | [] => .error .malformed
      | e :: rest =>
        if e.is 'u' then
          match unicodeEscape? rest with
          | none => .error .malformed
          | some (c, rest) => do
            let (t, rest) ← readString fuel rest
            return (c :: t, rest)
        else
          match simpleEscape? e with
          | none => .error .malformed
          | some c => do
            let (t, rest) ← readString fuel rest
            return (.scalar c :: t, rest)
    else do
      let (t, rest) ← readString fuel rest
      return (p :: t, rest)

def digitsValue (ds : Text) : Nat := ds.foldl (fun n d => n * 10 + (d.val - 48)) 0

def exponent? (t : Text) : Option (Int × Text) :=
  match t with
  | e :: rest =>
    if e.is 'e' || e.is 'E' then
      let (negative, rest) := match rest with
        | sign :: more =>
          if sign.is '-' then (true, more) else if sign.is '+' then (false, more) else (false, rest)
        | [] => (false, rest)
      let ds := rest.takeWhile CodePoint.isAsciiDigit
      if ds.isEmpty then none
      else
        let size : Int := digitsValue ds
        some (if negative then -size else size, rest.dropWhile CodePoint.isAsciiDigit)
    else none
  | [] => none

def fraction? (t : Text) : Option (Text × Text) :=
  match t with
  | point :: rest =>
    let ds := rest.takeWhile CodePoint.isAsciiDigit
    if point.is '.' && !ds.isEmpty then some (ds, rest.dropWhile CodePoint.isAsciiDigit) else none
  | [] => none

def readNumber (negative : Bool) (t : Text) : Except ReadFault (Json × Text) :=
  let run := t.takeWhile CodePoint.isAsciiDigit
  match run with
  | [] => .error .malformed
  | first :: _ =>
    let whole := if first.is '0' then [first] else run
    let rest := t.drop whole.length
    let (fraction, rest₁, hasFraction) := match fraction? rest with
      | some (ds, more) => (ds, more, true)
      | none => ([], rest, false)
    let (exponent, rest₂, hasExponent) := match exponent? rest₁ with
      | some (e, more) => (e, more, true)
      | none => (0, rest₁, false)
    if hasFraction || hasExponent then
      let ds := whole ++ fraction
      .ok (.float (Binary64.ofDecimal negative (digitsValue ds) ds.length
        (exponent - fraction.length)), rest₂)
    else if whole.length > Numeral.maxDigits then .error (.tooManyDigits whole.length)
    else
      let size : Int := digitsValue whole
      .ok (.int (if negative then -size else size), rest₂)

def words : List (String × Json) :=
  [("null", .null), ("true", .bool true), ("false", .bool false), ("NaN", .float .nan),
   ("Infinity", .float (.infinite false)), ("-Infinity", .float (.infinite true))]

def readWord? (t : Text) : Option (Json × Text) :=
  words.findSome? fun (word, value) => (Text.strip? (Text.ofString word) t).map fun rest => (value, rest)

mutual

-- A value at the beginning of a text. The fuel bounds the depth of nesting and the number of members
-- together.
def readValue : (fuel : Nat) → Text → Except ReadFault (Json × Text)
  | 0, _ => .error .malformed
  | fuel + 1, t =>
    match readWord? t with
    | some (value, rest) => .ok (value, rest)
    | none =>
      match t with
      | [] => .error .malformed
      | p :: rest =>
        if p.val == 34 then do
          let (s, rest) ← readString (rest.length + 1) rest
          return (.str s, rest)
        else if p.val == 123 then
          match skipSpace rest with
          | [] => .error .malformed
          | q :: more =>
            if q.val == 125 then .ok (.obj [], more)
            else do
              let (members, rest) ← readMembers fuel [] (q :: more)
              return (.obj members, rest)
        else if p.is '[' then
          match skipSpace rest with
          | [] => .error .malformed
          | q :: more =>
            if q.is ']' then .ok (.arr [], more)
            else do
              let (items, rest) ← readItems fuel (q :: more)
              return (.arr items, rest)
        else if p.is '-' then readNumber true rest
        else readNumber false t

def readItems : (fuel : Nat) → Text → Except ReadFault (List Json × Text)
  | 0, _ => .error .malformed
  | fuel + 1, t => do
    let (item, rest) ← readValue fuel t
    match skipSpace rest with
    | [] => .error .malformed
    | p :: more =>
      if p.is ']' then return ([item], more)
      else if p.is ',' then do
        let (items, rest) ← readItems fuel (skipSpace more)
        return (item :: items, rest)
      else .error .malformed

def readMembers : (fuel : Nat) → Members → Text → Except ReadFault (Members × Text)
  | 0, _, _ => .error .malformed
  | _ + 1, _, [] => .error .malformed
  | fuel + 1, before, quote :: t =>
    if quote.val == 34 then do
      let (key, rest) ← readString (t.length + 1) t
      match skipSpace rest with
      | [] => .error .malformed
      | colon :: rest =>
        if colon.is ':' then do
          let (value, rest) ← readValue fuel (skipSpace rest)
          let members := Members.put key value before
          match skipSpace rest with
          | [] => .error .malformed
          | p :: more =>
            if p.val == 125 then return (members, more)
            else if p.is ',' then readMembers fuel members (skipSpace more)
            else .error .malformed
        else .error .malformed
    else .error .malformed

end

def read (t : Text) : Except ReadFault Json := do
  let (value, rest) ← readValue (t.length + 1) (skipSpace t)
  if (skipSpace rest).isEmpty then return value else .error .malformed

end Json

end Linkage
