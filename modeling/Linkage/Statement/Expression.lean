import Linkage.Statement.Definition

set_option autoImplicit false

namespace Linkage

namespace Statement.Expression

def leadingWords : List String := ["typeof", "void", "delete", "await", "new"]

def leadingMarks : List String := ["!", "~", "+", "-", "++", "--"]

def binaryMarks : List String :=
  ["+", "-", "*", "/", "%", "**", "<", ">", "<=", "==", "===", "!=", "!==", "&&", "||", "??", "&",
   "|", "^", "<<", "=", "+=", "-=", "*=", "/=", "%=", "**=", "<<=", "&=", "|=", "^=", "&&=", "||=",
   "??="]

def typeMarks : List String := [",", ".", "|", "&", "=>", "?", ":", "-", "..."]

def mayBeType (t : Token) : Bool :=
  match t with
  | .mark _ text => typeMarks.contains text
  | _ => true

-- Whether what follows a closing angle shows that the angles were type arguments.
def followsArguments : List Token → Bool
  | [] => true
  | .group _ .round _ :: _ => true
  | .plain _ .template :: _ => true
  | .mark _ text :: _ => !leadingMarks.contains text && text != "<" && text != "@"
  | t :: _ => t.gap.lineEnd

def typeArguments? (rest : List Token) : Option Reading :=
  match Reading.closeAngles mayBeType 0 rest with
  | some r => if followsArguments r.rest then some r else none
  | none => none

-- Whether a token joins the angle right before it into an operator such as `>=` or `>>`.
def joinsAngle (last : Option Token) (t : Token) : Bool :=
  match last with
  | some angle =>
    angle.isMark ">" && angle.stop = t.start &&
      (t.isMark ">" || t.isMark "=" || t.isMark "==" || t.isMark "===")
  | none => false

def function? (r : Reading) : Option Reading := do
  let head ← Definition.head? (← Definition.functionKeyword? r)
  Definition.body? head.reading

def isParameter : List Token → Bool
  | .word place _ :: arrow :: _ => !place.gap.lineEnd && arrow.isMark "=>"
  | _ => false

mutual

def operand : (fuel : Nat) → (choices : Nat) → (last : Option Token) → Reading → Option Reading
  | 0, _, _, _ => none
  | fuel + 1, choices, last, r =>
    match r.rest with
    | [] => none
    | t :: rest =>
      match t with
      | .word _ text =>
        match function? r with
        | some inside => operator fuel choices none inside
        | none =>
          if text == "class" then
            match Definition.class? (.after t rest) with
            | some (_, inside) => operator fuel choices none inside
            | none => none
          else if leadingWords.contains text && !(rest.head?.any (·.isMark ".")) then
            operand fuel choices none (.after t rest)
          else if text == "async" && isParameter rest then
            operand fuel choices none (.after t rest)
          else operator fuel choices (some t) (.after t rest)
      | .mark _ text =>
        if joinsAngle last t then operand fuel choices (some t) (.after t rest)
        else if leadingMarks.contains text then operand fuel choices none (.after t rest)
        else if text == "<" then
          match r.skipAngles with
          | some inside => operand fuel choices none inside
          | none => none
        else if text == "@" then
          operand fuel choices none (Definition.decorators (rest.length + 1) r)
        else none
      | _ => operator fuel choices (some t) (.after t rest)

def operator : (fuel : Nat) → (choices : Nat) → (last : Option Token) → Reading → Option Reading
  | 0, _, _, _ => none
  | fuel + 1, choices, last, r =>
    let ended : Option Reading := if choices = 0 then some r else none
    match r.rest with
    | [] => ended
    | t :: rest =>
      if Reading.endsBefore .expression t then ended
      else match t with
        | .mark _ text =>
          if text == "?" then operand fuel (choices + 1) none (.after t rest)
          else if text == ":" then
            if choices > 0 then operand fuel (choices - 1) none (.after t rest)
            else if last.any (·.isGroup .round) then
              match Annotation.readResult? (.after t rest) with
              | some inside => operator fuel choices none inside
              | none => ended
            else ended
          else if text == "=>" then
            match rest with
            | body :: more =>
              if body.isGroup .curly then operator fuel choices none (.after body more)
              else operand fuel choices none (.after t rest)
            | [] => none
          else if text == "." || text == "?." then
            match rest with
            | member :: more =>
              match member with
              | .word _ _ => operator fuel choices none (.after member more)
              | .group _ _ _ | .plain _ .template =>
                if text == "?." then operator fuel choices none (.after member more) else none
              | .mark _ _ =>
                if text == "?." && member.isMark "<" then operator fuel choices none (.after t rest)
                else none
              | _ => none
            | [] => none
          else if text == "!" || text == "++" || text == "--" then
            operator fuel choices none (.after t rest)
          else if text == "<" then
            match typeArguments? rest with
            | some inside => operator fuel choices none inside
            | none => operand fuel choices (some t) (.after t rest)
          else if binaryMarks.contains text then operand fuel choices (some t) (.after t rest)
          else ended
        | .word _ text =>
          if text == "in" || text == "instanceof" then operand fuel choices none (.after t rest)
          else if text == "as" || text == "satisfies" then
            match Annotation.read .expression (.after t rest) with
            | some inside => operator fuel choices none inside
            | none => none
          else ended
        | .group _ .round _ => operator fuel choices (some t) (.after t rest)
        | .group _ .square _ => operator fuel choices none (.after t rest)
        | .plain _ .template => operator fuel choices none (.after t rest)
        | _ => ended

end

def read (r : Reading) : Option Reading := operand (2 * r.rest.length + 2) 0 none r

def definitionKind? (stop : Nat) (r : Reading) : Option String :=
  match Definition.functionKeyword? r with
  | some inside =>
    match Definition.head? inside with
    | some head =>
      match Definition.body? head.reading with
      | some body =>
        if body.stop = stop then
          some (if head.isGenerator then "generator_function" else "function_expression")
        else none
      | none => none
    | none => none
  | none =>
    match r.word? "class" with
    | some inside =>
      match Definition.class? inside with
      | some (_, body) => if body.stop = stop then some "class" else none
      | none => none
    | none => none

end Statement.Expression

end Linkage
