import Linkage.Text.Blank
import Linkage.Text.Digit
import Linkage.Text.Quoted

set_option autoImplicit false

namespace Linkage

namespace Numeral

inductive Base where
  | ten
  | sixteen
deriving DecidableEq

def Base.size : Base → Nat
  | .ten => 10
  | .sixteen => 16

def digit? (base : Base) (p : CodePoint) : Option Nat :=
  match p.decimal? with
  | some d => some d
  | none => match base with
    | .ten => none
    | .sixteen => p.hexValue?

def digitsFrom? (base : Base) (value : Nat) : Text → Option Nat
  | [] => some value
  | p :: rest =>
    match digit? base p with
    | some d => digitsFrom? base (value * base.size + d) rest
    | none =>
      if p.is '_' then
        match rest with
        | [] => none
        | q :: rest =>
          match digit? base q with
          | some d => digitsFrom? base (value * base.size + d) rest
          | none => none
      else none

def digits? (base : Base) : Text → Option Nat
  | [] => none
  | p :: rest => (digit? base p).bind fun d => digitsFrom? base d rest

def withoutMark (base : Base) (t : Text) : Text :=
  match base, t with
  | .sixteen, zero :: x :: rest =>
    if digit? .ten zero == some 0 && (x.is 'x' || x.is 'X') then
      match rest with
      | u :: more => if u.is '_' then more else rest
      | [] => rest
    else t
  | _, _ => t

def read? (base : Base) (t : Text) : Option Int :=
  let body := Text.dropEndWhile CodePoint.isNumeralBlank (t.dropWhile CodePoint.isNumeralBlank)
  match body with
  | [] => none
  | sign :: rest =>
    if sign.is '-' then (digits? base (withoutMark base rest)).map fun n => -(n : Int)
    else if sign.is '+' then (digits? base (withoutMark base rest)).map fun n => (n : Int)
    else (digits? base (withoutMark base body)).map fun n => (n : Int)

def maxDigits : Nat := 4300

def digitCount (t : Text) : Nat := t.countP fun p => (digit? .ten p).isSome

def complaint (base : Base) (t : Text) : Text :=
  Text.ofString "invalid literal for int() with base " ++ Text.ofNat base.size ++
    Text.ofString ": " ++ (Text.quoted t).take 200

end Numeral

end Linkage
