import Linkage.Text.Digit
import Linkage.Text.Quoted

set_option autoImplicit false

namespace Linkage

namespace Arguments

variable {κ : Type}

structure OptionRule (κ : Type) where
  key : κ
  spellings : List Text
  takesValue : Bool

def OptionRule.name (rule : OptionRule κ) : Text := Text.join (Text.ofString "/") rule.spellings

-- What a program takes besides options: one word or none, one word, or a command, to which all that
-- follows it belongs.
inductive Operand where
  | optional
  | required
  | command
deriving DecidableEq

structure Rules (κ : Type) where
  options : List (OptionRule κ)
  operand : Operand

inductive Complaint where
  | ambiguous (argument : Text) (meanings : List Text)
  | unrecognized (arguments : List Text)
  | missing (name : Text)
  | badChoice (name choice : Text) (choices : List Text)
  | valueNeeded (name : Text)
  | valueIgnored (name value : Text)
  | badInteger (name value : Text)
  | notAllowedWith (name other : Text)
deriving DecidableEq

namespace Complaint

def aboutArgument (name : Text) (rest : Text) : Text :=
  Text.ofString "argument " ++ name ++ Text.ofString ": " ++ rest

def message : Complaint → Text
  | .ambiguous argument meanings =>
    Text.ofString "ambiguous option: " ++ argument ++ Text.ofString " could match " ++
      Text.join (Text.ofString ", ") meanings
  | .unrecognized arguments =>
    Text.ofString "unrecognized arguments: " ++ Text.join (Text.ofString " ") arguments
  | .missing name => Text.ofString "the following arguments are required: " ++ name
  | .badChoice name choice choices =>
    aboutArgument name (Text.ofString "invalid choice: " ++ Text.quoted choice ++
      Text.ofString " (choose from " ++ Text.join (Text.ofString ", ") (choices.map Text.quoted) ++
      Text.ofString ")")
  | .valueNeeded name => aboutArgument name (Text.ofString "expected one argument")
  | .valueIgnored name value =>
    aboutArgument name (Text.ofString "ignored explicit argument " ++ Text.quoted value)
  | .badInteger name value =>
    aboutArgument name (Text.ofString "invalid int value: " ++ Text.quoted value)
  | .notAllowedWith name other =>
    aboutArgument name (Text.ofString "not allowed with argument " ++ other)

end Complaint

structure Attached where
  marked : Bool
  value : Text

inductive Word (κ : Type) where
  | plain (text : Text)
  | separator
  | option (text : Text) (rule : OptionRule κ) (isShort : Bool) (attached : Option Attached)
  | unknown (text : Text)

def dash : CodePoint := .scalar '-'

def separatorText : Text := [dash, dash]

namespace Word

def text : Word κ → Text
  | .plain text => text
  | .separator => separatorText
  | .option text .. => text
  | .unknown text => text

end Word

def Rules.spelled (rules : Rules κ) : List (Text × OptionRule κ) :=
  rules.options.flatMap fun rule => rule.spellings.map fun spelling => (spelling, rule)

def Rules.find? (rules : Rules κ) (spelling : Text) : Option (OptionRule κ) :=
  rules.spelled.lookup spelling

def isShortSpelling (spelling : Text) : Bool := spelling.length = 2

def splitMarked (argument : Text) : Text × Option Text :=
  let before := argument.takeWhile fun p => !p.is '='
  match argument.drop before.length with
  | [] => (before, none)
  | _ :: value => (before, some value)

def isNegativeNumber (argument : Text) : Bool :=
  match argument with
  | first :: rest =>
    let body := if rest.getLast?.any (·.is '\n') then rest.dropLast else rest
    let isDigit (p : CodePoint) : Bool := p.decimal?.isSome
    let tail := body.dropWhile isDigit
    first = dash &&
      ((tail.isEmpty && !body.isEmpty) ||
        match tail with
        | point :: digits => point.is '.' && !digits.isEmpty && digits.all isDigit
        | [] => false)
  | [] => false

def longMeanings (rules : Rules κ) (argument : Text) : List (Text × OptionRule κ × Option Attached) :=
  let (stem, value) := splitMarked argument
  rules.spelled.filterMap fun (spelling, rule) =>
    if Text.startsWith spelling stem then some (spelling, rule, value.map fun v => ⟨true, v⟩)
    else none

def shortMeanings (rules : Rules κ) (argument : Text) :
    List (Text × OptionRule κ × Option Attached) :=
  rules.spelled.filterMap fun (spelling, rule) =>
    if spelling = argument.take 2 then some (spelling, rule, some ⟨false, argument.drop 2⟩)
    else none

def meanings (rules : Rules κ) (argument : Text) : List (Text × OptionRule κ × Option Attached) :=
  if (argument.drop 1).head? = some dash then longMeanings rules argument
  else shortMeanings rules argument

-- An argument that begins with a dash and is no spelling of an option as it stands.
def shortened (rules : Rules κ) (argument : Text) : Except Complaint (Word κ) :=
  match meanings rules argument with
  | [] =>
    if isNegativeNumber argument || argument.any (·.is ' ') then .ok (.plain argument)
    else .ok (.unknown argument)
  | [(spelling, rule, attached)] =>
    .ok (.option argument rule (isShortSpelling spelling) attached)
  | several => .error (.ambiguous argument (several.map Prod.fst))

def word (rules : Rules κ) (argument : Text) : Except Complaint (Word κ) :=
  if argument.head? ≠ some dash then .ok (.plain argument)
  else match rules.find? argument with
    | some rule => .ok (.option argument rule (isShortSpelling argument) none)
    | none =>
      if argument.length = 1 then .ok (.plain argument)
      else match splitMarked argument with
        | (stem, some value) =>
          match rules.find? stem with
          | some rule => .ok (.option argument rule (isShortSpelling stem) (some ⟨true, value⟩))
          | none => shortened rules argument
        | (_, none) => shortened rules argument

def words (rules : Rules κ) : List Text → Except Complaint (List (Word κ))
  | [] => .ok []
  | argument :: rest =>
    if argument = separatorText then .ok (.separator :: rest.map .plain)
    else do return (← word rules argument) :: (← words rules rest)

inductive Event (κ : Type) where
  | use (rule : OptionRule κ) (value : Option Text)
  | operand (texts : List Text)
  | extra (text : Text)
  | fault (complaint : Complaint)

inductive RunEnd (κ : Type) where
  | bare (rule : OptionRule κ)
  | valued (rule : OptionRule κ) (value : Text)
  | unknown (text : Text)
  | fault (complaint : Complaint)

def unfold (rules : Rules κ) (isShort : Bool) (rule : OptionRule κ) (marked : Bool)
    (value : Text) : List (OptionRule κ) × RunEnd κ :=
  if rule.takesValue then ([], .valued rule value)
  else match value with
    | [] => ([], .fault (.valueIgnored rule.name value))
    | letter :: rest =>
      if !isShort || marked || letter = dash then ([], .fault (.valueIgnored rule.name value))
      else match rules.find? [dash, letter] with
        | none => ([rule], .unknown (dash :: value))
        | some next =>
          match rest with
          | [] => ([rule], .bare next)
          | second :: more =>
            let (flags, finish) :=
              if second.is '=' then unfold rules isShort next true more
              else unfold rules isShort next false (second :: more)
            (rule :: flags, finish)
termination_by value.length

def optionRun (rules : Rules κ) (rule : OptionRule κ) (isShort : Bool) :
    Option Attached → List (OptionRule κ) × RunEnd κ
  | none => ([], .bare rule)
  | some attached => unfold rules isShort rule attached.marked attached.value

def readRun (flags : List (OptionRule κ)) (rest : List (Word κ)) :
    RunEnd κ → List (Event κ) × List (Word κ)
  | .bare last =>
    if last.takesValue then
      match rest with
      | .plain value :: more => (flags.map (.use · none) ++ [.use last (some value)], more)
      | _ => ([.fault (.valueNeeded last.name)], [])
    else (flags.map (.use · none) ++ [.use last none], rest)
  | .valued last value => (flags.map (.use · none) ++ [.use last (some value)], rest)
  | .unknown text => (flags.map (.use · none) ++ [.extra text], rest)
  | .fault complaint => ([.fault complaint], [])

theorem length_readRun_le (flags : List (OptionRule κ)) (rest : List (Word κ))
    (finish : RunEnd κ) : (readRun flags rest finish).2.length ≤ rest.length := by
  cases finish with
  | bare last =>
    simp only [readRun]
    split
    · split <;> simp
    · simp
  | valued last value => simp [readRun]
  | unknown text => simp [readRun]
  | fault complaint => simp [readRun]

-- The operand at the head of the words, and the words that are left. A separator beside it goes with
-- it.
def takeOperand : Operand → List (Word κ) → Option (List Text × List (Word κ))
  | .command, .plain text :: rest => some (text :: rest.map Word.text, [])
  | .command, .separator :: .plain text :: rest =>
    some (separatorText :: text :: rest.map Word.text, [])
  | .command, _ => none
  | _, .plain text :: .separator :: rest => some ([text], rest)
  | _, .plain text :: rest => some ([text], rest)
  | _, .separator :: .plain text :: rest => some ([text], rest)
  | .optional, .separator :: rest => some ([], rest)
  | _, _ => none

theorem length_takeOperand_lt {operand : Operand} {head : Word κ} {rest : List (Word κ)}
    {texts : List Text} {more : List (Word κ)}
    (taken : takeOperand operand (head :: rest) = some (texts, more)) :
    more.length < rest.length + 1 := by
  unfold takeOperand at taken
  split at taken <;> grind

-- The events of the words; `pending` while the operand is still looked for.
def events (rules : Rules κ) (pending : Bool) (ws : List (Word κ)) : List (Event κ) :=
  match ws with
  | [] => []
  | .option _ rule isShort attached :: rest =>
    let run := optionRun rules rule isShort attached
    let read := readRun run.1 rest run.2
    read.1 ++ events rules pending read.2
  | .unknown text :: rest => .extra text :: events rules pending rest
  | head :: rest =>
    if pending then
      match _taken : takeOperand rules.operand (head :: rest) with
      | some (texts, more) => .operand texts :: events rules false more
      | none => .extra head.text :: events rules pending rest
    else .extra head.text :: events rules pending rest
termination_by ws.length
decreasing_by
  · exact Nat.lt_succ_of_le (length_readRun_le _ rest _)
  · simp
  · simpa using length_takeOperand_lt _taken
  · simp
  · simp

def read (rules : Rules κ) (arguments : List Text) : List (Event κ) :=
  match words rules arguments with
  | .ok ws => events rules true ws
  | .error complaint => [.fault complaint]

end Arguments

end Linkage
