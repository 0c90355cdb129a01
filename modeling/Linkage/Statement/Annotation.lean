import Linkage.Statement.Reading

set_option autoImplicit false

namespace Linkage

namespace Statement.Annotation

open Reading (Setting)

def leadingWords : List String :=
  ["keyof", "typeof", "readonly", "unique", "infer", "asserts", "abstract", "new"]

def beginsOperand : List Token → Bool
  | .word _ text :: _ => text != "extends" && text != "is"
  | .mark _ text :: _ => text == "<"
  | _ :: _ => true
  | [] => false

structure Waiting where
  questions : Nat
  colons : Nat

mutual

def operand (arrows : Bool) (setting : Setting) :
    (fuel : Nat) → Waiting → Reading → Option Reading
  | 0, _, _ => none
  | fuel + 1, waiting, r =>
    match r.rest with
    | [] => none
    | t :: rest =>
      match t with
      | .word _ text =>
        if leadingWords.contains text && beginsOperand rest then
          operand arrows setting fuel waiting (.after t rest)
        else if text == "import" then
          match rest with
          | g :: more =>
            if g.isGroup .round then operator arrows setting fuel false waiting (.after g more) else none
          | [] => none
        else operator arrows setting fuel false waiting (.after t rest)
      | .mark _ text =>
        if text == "<" then do operand arrows setting fuel waiting (← r.skipAngles)
        else if text == "|" || text == "&" || text == "-" then
          operand arrows setting fuel waiting (.after t rest)
        else none
      | _ => operator arrows setting fuel (t.isGroup .round) waiting (.after t rest)

-- Reads on after an operand. An arrow goes on only after parameters.
def operator (arrows : Bool) (setting : Setting) :
    (fuel : Nat) → (afterParameters : Bool) → Waiting → Reading → Option Reading
  | 0, _, _, _ => none
  | fuel + 1, afterParameters, waiting, r =>
    match r.rest with
    | [] => some r
    | t :: rest =>
      if Reading.endsBefore setting t then some r
      else match t with
        | .mark _ text =>
          if ["|", "&", "."].contains text || (text == "=>" && arrows && afterParameters) then
            operand arrows setting fuel waiting (.after t rest)
          else if text == "<" then do operator arrows setting fuel false waiting (← r.skipAngles)
          else if text == "?" && waiting.questions > 0 then
            operand arrows setting fuel ⟨waiting.questions - 1, waiting.colons + 1⟩ (.after t rest)
          else if text == ":" && waiting.colons > 0 then
            operand arrows setting fuel ⟨waiting.questions, waiting.colons - 1⟩ (.after t rest)
          else some r
        | .word _ text =>
          if text == "extends" then
            operand arrows setting fuel ⟨waiting.questions + 1, waiting.colons⟩ (.after t rest)
          else if text == "is" then operand arrows setting fuel waiting (.after t rest)
          else some r
        | .group _ .square _ => operator arrows setting fuel false waiting (.after t rest)
        | _ => some r

end

def read (setting : Setting) (r : Reading) : Option Reading :=
  operand true setting (2 * r.rest.length + 2) ⟨0, 0⟩ r

-- Reads the type that an arrow function returns, up to its arrow. The longest type with an arrow after
-- it counts, and one without arrows of its own if there is no such type.
def readResult? (r : Reading) : Option Reading :=
  match read .other r with
  | some long =>
    if (long.mark? "=>").isSome then some long
    else match operand false .other (2 * r.rest.length + 2) ⟨0, 0⟩ r with
      | some short => if (short.mark? "=>").isSome then some short else none
      | none => none
  | none => none

def readAfterColon (setting : Setting) (r : Reading) : Option Reading :=
  match r.mark? ":" with
  | some inside => read setting inside
  | none => some r

end Statement.Annotation

end Linkage
