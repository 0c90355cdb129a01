import Linkage.Ignore
import Linkage.Ignore.Glob
import Linkage.Text.Blank

set_option autoImplicit false

namespace Linkage

inductive Matcher where
  | never
  | anything
  | anySlash
  | glob (parts : List GlobPart)
deriving DecidableEq

namespace Matcher

def accepts (path : Text) : Matcher → Bool
  | .never => false
  | .anything => path.any fun c => !Glob.isNewline c
  | .anySlash => path.any Glob.isSlash
  | .glob parts => Glob.matchesStart parts path

end Matcher

structure IgnorePattern where
  negated : Bool
  matcher : Matcher
deriving DecidableEq

namespace IgnorePattern

def star : CodePoint := .scalar '*'

def backslash : CodePoint := .scalar '\\'

def doubleStar : Text := [star, star]

def classItems : Text → List ClassItem
  | low :: dash :: high :: more =>
    if dash.is '-' then .range low high :: classItems more
    else .one low :: classItems (dash :: high :: more)
  | low :: rest => .one low :: classItems rest
  | [] => []

-- The inside of a bracket expression, given what follows its opening bracket: whether it is negated,
-- its items, and what follows the closing bracket. A closing bracket that comes first is an item.
def bracket? (t : Text) : Option (Bool × List ClassItem × Text) :=
  let negated := t.head?.any fun c => c.is '!' || c.is '^'
  let inside := if negated then t.drop 1 else t
  let lead := if inside.head?.any (·.is ']') then 1 else 0
  let body := inside.drop lead
  match body.dropWhile fun c => !c.is ']' with
  | [] => none
  | _ :: rest =>
    some (negated, classItems (inside.take lead ++ body.takeWhile fun c => !c.is ']'), rest)

def componentParts : (fuel : Nat) → Text → Option (List GlobPart)
  | 0, _ => some []
  | fuel + 1, t =>
    match t with
    | [] => some []
    | c :: rest =>
      if c = backslash then
        match rest with
        | [] => none
        | quoted :: more => do return .char quoted :: (← componentParts fuel more)
      else if c = star then do return .run :: (← componentParts fuel rest)
      else if c.is '?' then do return .any :: (← componentParts fuel rest)
      else if c.is '[' then
        match bracket? rest with
        | some (negated, items, more) => do
          return .oneOf negated items :: (← componentParts fuel more)
        | none => do return .char c :: (← componentParts fuel rest)
      else do return .char c :: (← componentParts fuel rest)

def collapseStars : List Text → List Text
  | [] => []
  | component :: rest =>
    match collapseStars rest with
    | [] => [component]
    | next :: more =>
      if component = doubleStar ∧ next = doubleStar then component :: more
      else component :: next :: more

-- The components of a pattern in full: a pattern of one component may begin anywhere, and a slash at
-- the end asks for something below it.
def components (t : Text) : List Text :=
  let written := Text.splitOn Glob.slash t
  let anchored := match written with
    | [] :: rest => rest
    | [one] => if one = doubleStar then [one] else [doubleStar, one]
    | [one, []] => if one = doubleStar then [one, []] else [doubleStar, one, []]
    | more => more
  let closed := match anchored.getLast? with
    | some [] => anchored.dropLast ++ [doubleStar]
    | _ => anchored
  collapseStars closed

def laterParts : List Text → Option (List GlobPart)
  | [] => some []
  | component :: rest =>
    if component = doubleStar then
      if rest.isEmpty then some [.char Glob.slash]
      else do return .between :: (← laterParts rest)
    else do
      let own ← ownParts component rest.isEmpty
      return .char Glob.slash :: own ++ (← laterParts rest)
where
  ownParts (component : Text) (isLast : Bool) : Option (List GlobPart) :=
    if component = [star] then
      some (.name :: if isLast then [.endWithSlash] else [])
    else do
      let parts ← componentParts component.length component
      return parts ++ if isLast then [.slashOrEnd] else []

def allParts : List Text → Option (List GlobPart)
  | [] => none
  | component :: rest =>
    if component = doubleStar then do
      match rest with
      | [] => return [.directories]
      | next :: more =>
        let own ← laterParts.ownParts next more.isEmpty
        return .directories :: own ++ (← laterParts more)
    else do
      let own ← laterParts.ownParts component rest.isEmpty
      return own ++ (← laterParts rest)

def matcher? (t : Text) : Option Matcher :=
  let forDirectories := t ≠ [Glob.slash] ∧ t.getLast? = some Glob.slash
  match components t with
  | [] => none
  | [one] =>
    if one = doubleStar then some (if forDirectories then .anySlash else .anything)
    else (allParts [one]).map .glob
  | [one, two] =>
    if one = doubleStar ∧ two = [star] then some .anything else (allParts [one, two]).map .glob
  | [one, two, three] =>
    if one = doubleStar ∧ two = [star] ∧ three = doubleStar then some .anySlash
    else (allParts [one, two, three]).map .glob
  | many => (allParts many).map .glob

def GlobPart.isOrdered : GlobPart → Bool
  | .oneOf _ items => items.all (·.isOrdered)
  | _ => true

def Matcher.isOrdered : Matcher → Bool
  | .glob parts => parts.all GlobPart.isOrdered
  | _ => true

-- The pattern without blanks at its end, unless the last of them is quoted.
def trimmed (line : Text) : Text :=
  if (Text.ofString " \\").isPrefixOf line.reverse then line else Text.trimEnd line

-- Reads a pattern. An empty one and one that begins with a hash match nothing.
def ofText (line : Text) : Except Failure IgnorePattern :=
  match trimmed line with
  | [] => .ok ⟨false, .never⟩
  | first :: rest =>
    if first.is '#' then .ok ⟨false, .never⟩
    else
      let negated := first.is '!'
      match matcher? (if negated then rest else first :: rest) with
      | none => .error (.ignorePattern line)
      | some m => if Matcher.isOrdered m then .ok ⟨negated, m⟩ else .error .bracketRange

end IgnorePattern

abbrev IgnorePatterns := List IgnorePattern

namespace IgnorePatterns

def ofEntries : List Json → Except Failure IgnorePatterns
  | [] => .ok []
  | entry :: rest =>
    if entry.isSet then
      match entry with
      | .str line => do return (← IgnorePattern.ofText line) :: (← ofEntries rest)
      | _ => .error (.wrongType (Text.ofString "an ignore pattern must be a text"))
    else ofEntries rest

-- The verdict on a path: the last pattern that matches it decides.
def verdict (patterns : IgnorePatterns) (path : Text) : Bool :=
  match patterns.reverse.find? fun p => p.matcher.accepts path with
  | some p => !p.negated
  | none => false

def withoutDot (path : Text) : Text := (Text.strip? (Text.ofString "./") path).getD path

def rules (patterns : IgnorePatterns) : IgnoreRules := fun path => verdict patterns (withoutDot path)

def reader : PatternReader := fun entries => do return rules (← ofEntries entries)

end IgnorePatterns

end Linkage
