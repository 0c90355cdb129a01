import Linkage.Text

set_option autoImplicit false

namespace Linkage

inductive Binary64 where
  | finite (negative : Bool) (significand : Nat) (exponent : Int)
  | infinite (negative : Bool)
  | nan
deriving DecidableEq

namespace Binary64

def twoTo (n : Nat) : Nat := Nat.pow 2 n

def tenTo (n : Nat) : Nat := Nat.pow 10 n

-- `n / d` to the nearest integer, a half to the even one.
def roundDiv (n d : Nat) : Nat :=
  let quotient := n / d
  let twice := 2 * (n % d)
  if twice < d then quotient
  else if d < twice then quotient + 1
  else if quotient % 2 = 0 then quotient
  else quotient + 1

def scale (n d : Nat) (power : Int) : Nat × Nat :=
  if 0 ≤ power then (n * twoTo power.toNat, d) else (n, d * twoTo (-power).toNat)

def ofRatio (negative : Bool) (n d : Nat) : Binary64 :=
  if n = 0 then .finite negative 0 (-1074)
  else
    let guess : Int := (n.log2 : Int) - (d.log2 : Int) - 53
    let wide := scale n d (-guess)
    let exponent := max (-1074) (if wide.1 / wide.2 < twoTo 53 then guess else guess + 1)
    let ratio := scale n d (-exponent)
    let rounded := roundDiv ratio.1 ratio.2
    let (significand, exponent) :=
      if rounded = twoTo 53 then (twoTo 52, exponent + 1) else (rounded, exponent)
    if exponent > 971 then .infinite negative else .finite negative significand exponent

-- The nearest number to `digits * 10 ^ power`, where `digits` has at most `count` digits. Decimals far
-- outside the range of the format are not expanded.
def ofDecimal (negative : Bool) (digits count : Nat) (power : Int) : Binary64 :=
  if digits = 0 then .finite negative 0 (-1074)
  else if 400 < power then .infinite negative
  else if power + count < -400 then .finite negative 0 (-1074)
  else if 0 ≤ power then ofRatio negative (digits * tenTo power.toNat) 1
  else ofRatio negative digits (tenTo (-power).toNat)

structure Decimal where
  digits : Nat
  power : Int

-- Twice the ends of the interval of reals that round to `significand * 2 ^ exponent`, over a common
-- denominator, and twice the value between them.
structure Interval where
  low : Nat
  mid : Nat
  high : Nat
  den : Nat
  closed : Bool

def interval (significand : Nat) (exponent : Int) : Interval :=
  -- in quarters of the last place, so that the narrow gap below a power of two is whole
  let lowGap := if significand = twoTo 52 ∧ -1074 < exponent then 1 else 2
  let unit := scale 1 4 exponent
  { low := (4 * significand - lowGap) * unit.1
    mid := 4 * significand * unit.1
    high := (4 * significand + 2) * unit.1
    den := unit.2
    closed := significand % 2 = 0 }

def Interval.holds (i : Interval) (digits : Nat) (power : Int) : Bool :=
  let n := if 0 ≤ power then digits * tenTo power.toNat * i.den else digits * i.den
  let d := if 0 ≤ power then 1 else tenTo (-power).toNat
  if i.closed then i.low * d ≤ n && n ≤ i.high * d else i.low * d < n && n < i.high * d

def Interval.neighbours (i : Interval) (power : Int) : Nat × Nat × Bool :=
  let n := if 0 ≤ power then i.mid else i.mid * tenTo (-power).toNat
  let d := if 0 ≤ power then i.den * tenTo power.toNat else i.den
  let low := n / d
  let twice := 2 * (n % d)
  (low, low + 1, decide (d < twice) || (twice == d && low % 2 == 1))

def digitCount (n : Nat) : Nat := (Nat.toDigits 10 n).length

def Interval.magnitude (i : Interval) : Int :=
  let whole := i.mid / i.den
  if 0 < whole then digitCount whole
  else
    let lift := (List.range 330).find? fun k => i.den ≤ i.mid * tenTo (k + 1)
    match lift with
    | some k => -(k : Int)
    | none => 0

-- The decimal with the fewest digits that reads back, the nearest of those.
def shortest (significand : Nat) (exponent : Int) : Decimal :=
  let i := interval significand exponent
  let top := i.magnitude
  let pick (count : Nat) : Option Decimal :=
    let power := top - count
    let (low, high, upper) := i.neighbours power
    let lowIn := i.holds low power
    let highIn := i.holds high power
    if lowIn && highIn then some ⟨if upper then high else low, power⟩
    else if lowIn then some ⟨low, power⟩
    else if highIn then some ⟨high, power⟩
    else none
  ((List.range 17).findSome? fun n => pick (n + 1)).getD ⟨significand, 0⟩

def Decimal.trimmed (d : Decimal) : Nat → Decimal
  | 0 => d
  | fuel + 1 =>
    if d.digits ≠ 0 ∧ d.digits % 10 = 0 then
      Decimal.trimmed ⟨d.digits / 10, d.power + 1⟩ fuel
    else d

def zeros (n : Nat) : Text := List.replicate n (.scalar '0')

-- Positional from a ten-thousandth up to below ten to the sixteenth, with a point always; elsewhere
-- one digit before the point and an exponent of at least two digits.
def Decimal.text (d : Decimal) : Text :=
  let digits := Text.ofNat d.digits
  let point : Int := digits.length + d.power
  if -4 < point ∧ point ≤ 16 then
    if point ≤ 0 then
      Text.ofString "0." ++ zeros (-point).toNat ++ digits
    else if digits.length ≤ point.toNat then
      digits ++ zeros (point.toNat - digits.length) ++ Text.ofString ".0"
    else
      digits.take point.toNat ++ [.scalar '.'] ++ digits.drop point.toNat
  else
    let exponent := point - 1
    let mark := Text.ofString (if exponent < 0 then "e-" else "e+")
    let size := Text.ofNat exponent.natAbs
    let body := match digits with
      | [] => []
      | [first] => [first]
      | first :: rest => first :: .scalar '.' :: rest
    body ++ mark ++ zeros (2 - size.length) ++ size

def text : Binary64 → Text
  | .nan => Text.ofString "NaN"
  | .infinite negative => Text.ofString (if negative then "-Infinity" else "Infinity")
  | .finite negative significand exponent =>
    let sign : Text := if negative then [.scalar '-'] else []
    if significand = 0 then sign ++ Text.ofString "0.0"
    else sign ++ ((shortest significand exponent).trimmed 400).text

def truncate? : Binary64 → Option Int
  | .finite negative significand exponent =>
    let size : Nat :=
      if 0 ≤ exponent then significand * twoTo exponent.toNat else significand / twoTo (-exponent).toNat
    some (if negative then -(size : Int) else size)
  | _ => none

def isInfinite : Binary64 → Bool
  | .infinite _ => true
  | _ => false

def isZero : Binary64 → Bool
  | .finite _ significand _ => significand == 0
  | _ => false

end Binary64

end Linkage
