import Linkage.Statement.Annotation

set_option autoImplicit false

namespace Linkage

namespace Statement.Definition

structure Head where
  isGenerator : Bool
  name : Option Token
  reading : Reading

def name? (r : Reading) : Option Token × Reading :=
  match r.rest with
  | t :: rest =>
    match t with
    | .word _ _ => (some t, .after t rest)
    | _ => (none, r)
  | [] => (none, r)

def group? (bracket : Bracket) (r : Reading) : Option Reading :=
  match r.rest with
  | t :: rest => if t.isGroup bracket then some (.after t rest) else none
  | [] => none

def head? (r : Reading) : Option Head := do
  let star := r.mark? "*"
  let (name, afterName) := name? (star.getD r)
  let parameters ← group? .round (← afterName.skipAngles)
  let reading ← Annotation.readAfterColon .signature parameters
  return ⟨star.isSome, name, reading⟩

def body? (r : Reading) : Option Reading :=
  match r.rest with
  | t :: _ => if Reading.endsBefore .signature t then none else group? .curly r
  | [] => none

def functionKeyword? (r : Reading) : Option Reading :=
  match r.word? "async" with
  | some inside =>
    match inside.rest with
    | t :: _ => if t.gap.lineEnd then none else inside.word? "function"
    | [] => none
  | none => r.word? "function"

-- Reads the rest of a class or interface up to its body: the first braces that follow an operand.
def classBody : (fuel : Nat) → (afterOperand : Bool) → Reading → Option Reading
  | 0, _, _ => none
  | fuel + 1, afterOperand, r =>
    match r.rest with
    | [] => none
    | t :: rest =>
      match t with
      | .group _ .curly _ =>
        if afterOperand then some (.after t rest) else classBody fuel true (.after t rest)
      | .word _ text =>
        classBody fuel (text != "extends" && text != "implements") (.after t rest)
      | .mark _ text =>
        if text == "<" then
          match r.skipAngles with
          | some inside => classBody fuel true inside
          | none => none
        else if text == "." || text == "?." || text == "," || text == "|" || text == "&" then
          classBody fuel false (.after t rest)
        else none
      | _ => classBody fuel true (.after t rest)

def class? (r : Reading) : Option (Option Token × Reading) :=
  match name? r with
  | (some t, afterName) =>
    let (name, start) :=
      if t.isWord "extends" || t.isWord "implements" then (none, r) else (some t, afterName)
    (classBody (start.rest.length + 1) true start).map fun body => (name, body)
  | (none, _) => (classBody (r.rest.length + 1) true r).map fun body => (none, body)

def decorators : (fuel : Nat) → Reading → Reading
  | 0, r => r
  | fuel + 1, r =>
    match r.mark? "@" with
    | none => r
    | some inside =>
      match inside.rest with
      | t :: rest =>
        match t with
        | .word _ _ => decorators fuel (decoratorTail rest.length (.after t rest))
        | .group _ .round _ => decorators fuel (.after t rest)
        | _ => r
      | [] => r
where
  decoratorTail : (fuel : Nat) → Reading → Reading
    | 0, r => r
    | fuel + 1, r =>
      match r.rest with
      | t :: rest =>
        if t.isGroup .round then decoratorTail fuel (.after t rest)
        else if t.isMark "." then
          match rest with
          | member :: more => decoratorTail fuel (.after member more)
          | [] => r
        else r
      | [] => r

end Statement.Definition

end Linkage
