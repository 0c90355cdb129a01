import Linkage.Invocation

set_option autoImplicit false

namespace Linkage

namespace Arguments

variable {κ : Type}

namespace Word

def isOption : Word κ → Bool
  | .option .. => true
  | _ => false

def Listed (rules : Rules κ) : Word κ → Prop
  | .option _ rule _ _ => rule ∈ rules.options
  | _ => True

end Word

theorem spelled_listed (rules : Rules κ) (spelling : Text) (rule : OptionRule κ)
    (spelled : (spelling, rule) ∈ rules.spelled) : rule ∈ rules.options := by
  obtain ⟨other, listed, member⟩ := List.mem_flatMap.mp spelled
  obtain ⟨_, _, same⟩ := List.mem_map.mp member
  rw [← (Prod.mk.inj same).2]
  exact listed

theorem found_listed (rules : Rules κ) (spelling : Text) (rule : OptionRule κ)
    (found : rules.find? spelling = some rule) : rule ∈ rules.options := by
  obtain ⟨front, back, split, _⟩ := List.lookup_eq_some_iff.mp found
  exact spelled_listed rules spelling rule (split ▸ List.mem_append_right front List.mem_cons_self)

theorem meanings_listed (rules : Rules κ) (argument spelling : Text) (rule : OptionRule κ) (attached : Option Attached)
    (meant : (spelling, rule, attached) ∈ meanings rules argument) : rule ∈ rules.options := by
  rw [meanings] at meant
  split at meant <;>
  · obtain ⟨⟨other, own⟩, spelled, kept⟩ := List.mem_filterMap.mp meant
    simp only [Option.ite_none_right_eq_some, Option.some.injEq, Prod.mk.injEq] at kept
    rw [← kept.2.2.1]
    exact spelled_listed rules other own spelled

theorem shortened_read (rules : Rules κ) (argument : Text) (w : Word κ) (read : shortened rules argument = .ok w) :
    w.text = argument ∧ w.Listed rules := by
  rw [shortened] at read
  split at read
  · split at read <;> cases read <;> exact ⟨rfl, trivial⟩
  · rename_i spelling rule attached meant
    cases read
    exact ⟨rfl, meanings_listed rules argument spelling rule attached (meant ▸ List.mem_cons_self)⟩
  · cases read

theorem word_read (rules : Rules κ) (argument : Text) (w : Word κ) (read : word rules argument = .ok w) :
    w.text = argument ∧ w.Listed rules := by
  rw [word] at read
  split at read
  · cases read
    exact ⟨rfl, trivial⟩
  · split at read
    · rename_i rule found
      cases read
      exact ⟨rfl, found_listed rules argument rule found⟩
    · split at read
      · cases read
        exact ⟨rfl, trivial⟩
      · split at read
        · split at read
          · rename_i rule found
            cases read
            exact ⟨rfl, found_listed rules _ rule found⟩
          · exact shortened_read rules argument w read
        · exact shortened_read rules argument w read

theorem words_cons (rules : Rules κ) (argument : Text) (rest : List Text) (ws : List (Word κ))
    (read : words rules (argument :: rest) = .ok ws) :
    (argument = separatorText ∧ ws = .separator :: rest.map .plain) ∨
      ∃ w later, argument ≠ separatorText ∧ word rules argument = .ok w ∧ words rules rest = .ok later ∧
        ws = w :: later := by
  rw [words] at read
  by_cases separator : argument = separatorText
  · rw [if_pos separator] at read
    cases read
    exact Or.inl ⟨separator, rfl⟩
  · rw [if_neg separator] at read
    obtain ⟨w, first, onward⟩ := Failure.bind_ok _ _ _ read
    obtain ⟨later, following, last⟩ := Failure.bind_ok _ _ _ onward
    cases last
    exact Or.inr ⟨w, later, separator, first, following, rfl⟩

theorem words_read (rules : Rules κ) (arguments : List Text) (ws : List (Word κ))
    (read : words rules arguments = .ok ws) : ws.map Word.text = arguments ∧ ∀ w ∈ ws, w.Listed rules := by
  induction arguments generalizing ws with
  | nil =>
      cases read
      exact ⟨rfl, by simp⟩
  | cons argument rest ih =>
      rcases words_cons rules argument rest ws read with ⟨separator, form⟩ | ⟨w, later, _, first, following, form⟩
      · rw [form]
        refine ⟨?_, List.forall_mem_cons.mpr ⟨trivial, ?_⟩⟩
        · rw [List.map_cons, List.map_map, separator]
          exact congrArg _ (List.map_id rest)
        · intro w member
          obtain ⟨text, _, same⟩ := List.mem_map.mp member
          rw [← same]
          exact trivial
      · obtain ⟨text, listed⟩ := word_read rules argument w first
        obtain ⟨texts, others⟩ := ih later following
        rw [form]
        exact ⟨by rw [List.map_cons, text, texts], List.forall_mem_cons.mpr ⟨listed, others⟩⟩

-- Words after options are read as if nothing stood before them.
theorem words_split (rules : Rules κ) (front back : List (Word κ)) (arguments : List Text)
    (options : ∀ w ∈ front, w.isOption = true) (read : words rules arguments = .ok (front ++ back)) :
    ∃ early late, arguments = early ++ late ∧ words rules early = .ok front ∧ words rules late = .ok back := by
  induction front generalizing arguments with
  | nil => exact ⟨[], arguments, rfl, rfl, read⟩
  | cons w front ih =>
      obtain ⟨first, others⟩ := List.forall_mem_cons.mp options
      cases arguments with
      | nil => cases read
      | cons argument rest =>
          rcases words_cons rules argument rest _ read with ⟨_, form⟩ | ⟨_, later, apart, own, following, form⟩
          · rw [(List.cons.inj form).1] at first
            cases first
          · cases form
            obtain ⟨early, late, split, earlyRead, lateRead⟩ := ih rest others following
            refine ⟨argument :: early, late, by rw [split]; rfl, ?_, lateRead⟩
            rw [words, if_neg apart, own, earlyRead]
            rfl

-- An argument of options that takes nothing from the words after it.
def RunEnd.Alone : RunEnd κ → Prop
  | .bare last => last.takesValue = false
  | _ => True

theorem read_run_alone (options : List (OptionRule κ)) (finish : RunEnd κ) (alone : finish.Alone) :
    (∃ complaint, finish = .fault complaint) ∨
      ∃ own, (∀ event ∈ own, ∀ texts, event ≠ .operand texts) ∧ ∀ rest, readRun options rest finish = (own, rest) := by
  have uses : ∀ event ∈ options.map (Event.use · none), ∀ texts, event ≠ .operand texts := by
    intro event member texts same
    obtain ⟨rule, _, used⟩ := List.mem_map.mp member
    rw [← used] at same
    cases same
  have joined (last : Event κ) (other : ∀ texts, last ≠ .operand texts) :
      ∀ event ∈ options.map (Event.use · none) ++ [last], ∀ texts, event ≠ .operand texts := by
    intro event member
    rcases List.mem_append.mp member with early | late
    · exact uses event early
    · rw [List.mem_singleton.mp late]
      exact other
  cases finish with
  | bare last =>
      refine Or.inr ⟨_, joined (.use last none) (by simp), ?_⟩
      intro rest
      have valueless : ¬ last.takesValue = true := by rw [alone]; simp
      exact if_neg valueless
  | valued last value => exact Or.inr ⟨_, joined (.use last (some value)) (by simp), fun _ => rfl⟩
  | unknown text => exact Or.inr ⟨_, joined (.extra text) (by simp), fun _ => rfl⟩
  | fault complaint => exact Or.inl ⟨complaint, rfl⟩

theorem events_ordinary (rules : Rules κ) (w : Word κ) (rest : List (Word κ))
    (noOption : ∀ text rule isShort attached, w ≠ .option text rule isShort attached)
    (known : ∀ text, w ≠ .unknown text) :
    events rules true (w :: rest) =
      match takeOperand rules.operand (w :: rest) with
      | some (texts, more) => .operand texts :: events rules false more
      | none => .extra w.text :: events rules true rest := by
  rw [events]
  · simp only [if_true]
    split
    · rename_i taken
      rw [taken]
    · rename_i left
      rw [left]
  · exact noOption
  · exact known

theorem command_after_separator (ws more : List (Word κ)) (texts : List Text)
    (taken : takeOperand .command (.separator :: ws) = some (texts, more)) :
    ∃ later, texts = separatorText :: later ∧ more = [] := by
  cases ws with
  | nil => cases taken
  | cons w ws =>
      cases w with
      | plain text =>
          cases taken
          exact ⟨_, rfl, rfl⟩
      | separator => cases taken
      | option text rule isShort attached => cases taken
      | unknown text => cases taken

theorem events_plain (rules : Rules κ) (command : rules.operand = .command) (text : Text) (ws : List (Word κ)) :
    events rules true (.plain text :: ws) = [.operand (text :: ws.map Word.text)] := by
  rw [events_ordinary rules _ ws (by simp) (by simp), command, takeOperand]
  simp only [events]

section Flags

variable (rules : Rules κ) (flags : ∀ rule ∈ rules.options, rule.takesValue = false)

include flags

theorem unfold_alone (isShort : Bool) (rule : OptionRule κ) (marked : Bool) (value : Text) :
    (unfold rules isShort rule marked value).2.Alone := by
  fun_induction unfold rules isShort rule marked value with
  | case1 => trivial
  | case2 => trivial
  | case3 => trivial
  | case4 => trivial
  | case5 rule marked valueless letter _ next found => exact flags next (found_listed rules _ next found)
  | case6 rule marked _ letter _ next _ second more _ finish onward ofMarked ofPlain =>
      split at onward
      · rw [onward] at ofMarked
        exact ofMarked
      · rw [onward] at ofPlain
        exact ofPlain

theorem option_events (text : Text) (rule : OptionRule κ) (isShort : Bool) (attached : Option Attached)
    (listed : rule ∈ rules.options) :
    (∃ complaint, ∀ rest, events rules true (.option text rule isShort attached :: rest) = [.fault complaint]) ∨
      ∃ own, (∀ event ∈ own, ∀ texts, event ≠ .operand texts) ∧
        ∀ rest, events rules true (.option text rule isShort attached :: rest) = own ++ events rules true rest := by
  have alone : (optionRun rules rule isShort attached).2.Alone := by
    cases attached with
    | none => exact flags rule listed
    | some attached => exact unfold_alone rules flags isShort rule attached.marked attached.value
  rcases read_run_alone _ _ alone with ⟨complaint, fault⟩ | ⟨own, apart, read⟩
  · refine Or.inl ⟨complaint, ?_⟩
    intro rest
    rw [events, fault, readRun, events]
    rfl
  · refine Or.inr ⟨own, apart, ?_⟩
    intro rest
    rw [events, read rest]

-- Where a command is looked for and no option takes a value, the command is the first word that is
-- no option, and all after it belongs to it.
theorem events_command (command : rules.operand = .command) (ws : List (Word κ)) (listed : ∀ w ∈ ws, w.Listed rules)
    (clean : ∀ event ∈ events rules true ws, (∃ rule value, event = .use rule value) ∨ ∃ texts, event = .operand texts)
    (name : Text) (rest : List Text) (given : .operand (name :: rest) ∈ events rules true ws)
    (named : name ≠ separatorText) :
    ∃ front back, ws = front ++ .plain name :: back ∧ (∀ w ∈ front, w.isOption = true) ∧ back.map Word.text = rest ∧
      events rules true ws = events rules true front ++ [.operand (name :: rest)] := by
  induction ws with
  | nil =>
      rw [events] at given
      cases given
  | cons w ws ih =>
      obtain ⟨first, others⟩ := List.forall_mem_cons.mp listed
      cases w with
      | option text rule isShort attached =>
          rcases option_events rules flags text rule isShort attached first with ⟨complaint, fault⟩ | ⟨own, apart, read⟩
          · rw [fault] at given
            simp at given
          · rw [read] at given clean
            have later : .operand (name :: rest) ∈ events rules true ws :=
              (List.mem_append.mp given).resolve_left fun early => apart _ early _ rfl
            obtain ⟨front, back, split, options, texts, all⟩ :=
              ih others (fun event member => clean event (List.mem_append_right own member)) later
            refine ⟨.option text rule isShort attached :: front, back, by rw [split]; rfl,
              List.forall_mem_cons.mpr ⟨rfl, options⟩, texts, ?_⟩
            rw [read, read, all, List.append_assoc]
      | unknown text =>
          rw [events] at clean
          rcases clean _ List.mem_cons_self with ⟨_, _, same⟩ | ⟨_, same⟩ <;> cases same
      | plain text =>
          rw [events_plain rules command] at given ⊢
          cases List.mem_singleton.mp given
          exact ⟨[], ws, rfl, by simp, rfl, by rw [events]; rfl⟩
      | separator =>
          have read := events_ordinary rules .separator ws (by simp) (by simp)
          rw [read] at given clean
          cases taken : takeOperand rules.operand (.separator :: ws) with
          | none =>
              rw [taken] at clean
              rcases clean _ List.mem_cons_self with ⟨_, _, same⟩ | ⟨_, same⟩ <;> cases same
          | some pair =>
              obtain ⟨texts, more⟩ := pair
              rw [taken] at given
              rw [command] at taken
              obtain ⟨later, own, rest⟩ := command_after_separator ws more texts taken
              rw [own, rest] at given
              simp only [events, List.mem_singleton, Event.operand.injEq, List.cons.injEq] at given
              exact absurd given.1 named

end Flags

end Arguments

namespace Invocation

open Arguments

def isUse (key : Switch) : Event Switch → Bool
  | .use rule _ => rule.key = key
  | _ => false

def consumes (rules : Rules Switch) (key : Switch) (arguments : List Text) : Bool :=
  (Arguments.read rules arguments).any (isUse key)

theorem use_effect (program : Text) (given next : Given) (rule : OptionRule Switch) (value : Option Text)
    (used : given.use program rule value = .ok next) :
    next.operand = given.operand ∧ next.extras = given.extras ∧
      next.verbose = (given.verbose || decide (rule.key = .verbose)) ∧
      next.quiet = (given.quiet || decide (rule.key = .quiet)) := by
  rw [Given.use] at used
  cases key : rule.key with
  | help =>
      rw [key] at used
      cases used
  | version =>
      rw [key] at used
      cases used
  | verbose =>
      simp only [key] at used
      split at used
      · cases used
      · cases used
        simp
  | quiet =>
      simp only [key] at used
      split at used
      · cases used
      · cases used
        simp
  | jobs =>
      simp only [key] at used
      split at used
      · cases used
        simp
      · cases used
  | keepGoing =>
      simp only [key] at used
      cases used
      simp
  | compact =>
      simp only [key] at used
      cases used
      simp
  | origin =>
      simp only [key] at used
      cases used
      simp
  | shown =>
      simp only [key] at used
      cases used
      simp

theorem take_flags (program : Text) (given next : Given) (event : Event Switch)
    (taken : given.take program event = .ok next) :
    next.verbose = (given.verbose || isUse .verbose event) ∧ next.quiet = (given.quiet || isUse .quiet event) := by
  cases event with
  | use rule value => exact (use_effect program given next rule value taken).2.2
  | operand texts =>
      cases taken
      simp [isUse]
  | extra text =>
      cases taken
      simp [isUse]
  | fault complaint => cases taken

theorem fold_flags (program : Text) (events : List (Event Switch)) (start final : Given)
    (done : events.foldlM (Given.take program) start = .ok final) :
    final.verbose = (start.verbose || events.any (isUse .verbose)) ∧
      final.quiet = (start.quiet || events.any (isUse .quiet)) := by
  induction events generalizing start with
  | nil =>
      cases done
      simp
  | cons event events ih =>
      rw [List.foldlM_cons] at done
      obtain ⟨next, taken, onward⟩ := Failure.bind_ok _ _ _ done
      obtain ⟨verbose, quiet⟩ := take_flags program start next event taken
      obtain ⟨laterVerbose, laterQuiet⟩ := ih next onward
      rw [laterVerbose, laterQuiet, verbose, quiet, List.any_cons, List.any_cons, Bool.or_assoc, Bool.or_assoc]
      exact ⟨rfl, rfl⟩

-- Words that nothing was made of stay to the end, and so does the operand.
theorem fold_clean (program : Text) (events : List (Event Switch)) (start final : Given)
    (done : events.foldlM (Given.take program) start = .ok final) (clear : final.extras = []) :
    start.extras = [] ∧
    (∀ event ∈ events, (∃ rule value, event = .use rule value) ∨ ∃ texts, event = .operand texts) ∧
    ∀ texts, final.operand = some texts → start.operand = some texts ∨ .operand texts ∈ events := by
  induction events generalizing start with
  | nil =>
      cases done
      exact ⟨clear, by simp, fun _ given => Or.inl given⟩
  | cons event events ih =>
      rw [List.foldlM_cons] at done
      obtain ⟨next, taken, onward⟩ := Failure.bind_ok _ _ _ done
      obtain ⟨clear, clean, given⟩ := ih next onward
      cases event with
      | use rule value =>
          obtain ⟨operand, extras, _⟩ := use_effect program start next rule value taken
          rw [extras] at clear
          refine ⟨clear, List.forall_mem_cons.mpr ⟨Or.inl ⟨rule, value, rfl⟩, clean⟩, ?_⟩
          intro texts last
          rcases given texts last with early | late
          · exact Or.inl (operand ▸ early)
          · exact Or.inr (List.mem_cons_of_mem _ late)
      | operand own =>
          cases taken
          refine ⟨clear, List.forall_mem_cons.mpr ⟨Or.inr ⟨own, rfl⟩, clean⟩, ?_⟩
          intro texts last
          rcases given texts last with early | late
          · cases early
            exact Or.inr List.mem_cons_self
          · exact Or.inr (List.mem_cons_of_mem _ late)
      | extra text =>
          cases taken
          simp at clear
      | fault complaint => cases taken

theorem gather_flags (program : Text) (rules : Rules Switch) (arguments : List Text) (given : Given)
    (done : gather program rules arguments = .ok given) :
    given.verbose = consumes rules .verbose arguments ∧ given.quiet = consumes rules .quiet arguments := by
  obtain ⟨verbose, quiet⟩ := fold_flags program _ {} given done
  exact ⟨by rw [verbose, Bool.false_or, consumes], by rw [quiet, Bool.false_or, consumes]⟩

theorem gather_words (program : Text) (rules : Rules Switch) (arguments : List Text) (given : Given)
    (done : gather program rules arguments = .ok given) :
    ∃ ws, words rules arguments = .ok ws ∧ Arguments.read rules arguments = events rules true ws := by
  rw [gather, Arguments.read] at done
  cases read : words rules arguments with
  | error complaint =>
      rw [read] at done
      cases done
  | ok ws => exact ⟨ws, rfl, by rw [Arguments.read, read]⟩

theorem of_command_ok (extras : List Text) (name : Text) (arguments : List Text) (invocation : Invocation)
    (done : ofCommand extras name arguments = .ok invocation) :
    extras = [] ∧ ∃ command : Command, command.name = name ∧
      invocation.verbosity.verbose = consumes command.rules .verbose arguments ∧
      invocation.verbosity.quiet = consumes command.rules .quiet arguments := by
  rw [ofCommand] at done
  split at done
  · cases done
  · rename_i command named
    have spelled : command.name = name := by simpa using List.find?_some named
    obtain ⟨given, gathered, onward⟩ := Failure.bind_ok _ _ _ done
    obtain ⟨request, _, last⟩ := Failure.bind_ok _ _ _ onward
    cases left : extras ++ given.extras with
    | nil =>
        simp only [left] at last
        cases last
        exact ⟨(List.append_eq_nil_iff.mp left).1, command, spelled,
          gather_flags command.program command.rules arguments given gathered⟩
    | cons word more =>
        simp only [left] at last
        cases last

theorem rules_flags : ∀ rule ∈ rules.options, rule.takesValue = false := by
  decide

theorem command_name_ne_separator (command : Command) : command.name ≠ separatorText := by
  cases command <;> decide

theorem flags_after_command (arguments : List Text) (invocation : Invocation)
    (accepted : ofArguments arguments = .ok invocation) :
    ∃ (front : List Text) (command : Command) (rest : List Text), arguments = front ++ command.name :: rest ∧
      Arguments.read rules arguments = Arguments.read rules front ++ [.operand (command.name :: rest)] ∧
      invocation.verbosity.verbose = consumes command.rules .verbose rest ∧
      invocation.verbosity.quiet = consumes command.rules .quiet rest ∧
      ofArguments (command.name :: rest) = .ok invocation := by
  obtain ⟨given, gathered, onward⟩ := Failure.bind_ok _ _ _ accepted
  split at onward
  · rename_i name rest last
    obtain ⟨clear, command, named, verbose, quiet⟩ := of_command_ok _ name rest invocation onward
    rw [← named] at onward last
    obtain ⟨ws, split, read⟩ := gather_words program rules arguments given gathered
    obtain ⟨_, clean, operand⟩ := fold_clean program _ {} given gathered clear
    have present := (operand _ last).resolve_left (by simp)
    rw [read] at clean present
    obtain ⟨front, back, form, options, texts, all⟩ := events_command rules rules_flags rfl ws
      (words_read rules arguments ws split).2 clean command.name rest present (command_name_ne_separator command)
    rw [form] at split
    obtain ⟨early, late, whole, earlyRead, lateRead⟩ := words_split rules front _ arguments options split
    have lateText : command.name :: rest = late := by
      rw [← (words_read rules late _ lateRead).1, List.map_cons, texts]
      rfl
    refine ⟨early, command, rest, by rw [whole, lateText], ?_, verbose, quiet, ?_⟩
    · have before : Arguments.read rules early = events rules true front := by rw [Arguments.read, earlyRead]
      rw [read, all, before]
    · have alone : Arguments.read rules (command.name :: rest) = [.operand (command.name :: rest)] := by
        rw [lateText, Arguments.read, lateRead]
        simp only [events_plain rules rfl, texts, lateText]
      rw [clear] at onward
      rw [ofArguments, gather, alone]
      exact onward
  · cases onward

-- More is asked for before the command, and less after it.
def mixed : List Text := ["-v", "graph", "src", "-q"].map Text.ofString

def mixedInvocation : Invocation := ⟨⟨false, true⟩, .graph (pathOr (some (Text.ofString "src"))) none false false⟩

theorem flags_after_command_mixed :
    consumes rules .verbose mixed = true ∧ ofArguments mixed = .ok mixedInvocation ∧
      ∃ (front : List Text) (command : Command) (rest : List Text), mixed = front ++ command.name :: rest ∧
        consumes command.rules .verbose rest = false ∧ consumes command.rules .quiet rest = true ∧
        ofArguments (command.name :: rest) = .ok mixedInvocation := by
  have accepted : ofArguments mixed = .ok mixedInvocation := by with_unfolding_all rfl
  obtain ⟨front, command, rest, split, _, verbose, quiet, alone⟩ := flags_after_command mixed mixedInvocation accepted
  exact ⟨by with_unfolding_all rfl, accepted, front, command, rest, split, verbose.symm, quiet.symm, alone⟩

def loud : List Text := ["-v", "graph"].map Text.ofString

theorem flag_before_command_lost :
    consumes rules .verbose loud = true ∧
      ∃ request, ofArguments loud = .ok ⟨⟨false, false⟩, request⟩ := by
  exact ⟨by with_unfolding_all rfl, .graph (pathOr none) none false false, by with_unfolding_all rfl⟩

end Invocation

end Linkage
