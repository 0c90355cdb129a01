import Linkage.Text

set_option autoImplicit false

namespace Linkage

inductive ClassItem where
  | one (c : CodePoint)
  | range (low high : CodePoint)
deriving DecidableEq

namespace ClassItem

def holds (c : CodePoint) : ClassItem → Bool
  | .one d => c == d
  | .range low high => low.val ≤ c.val && c.val ≤ high.val

def isOrdered : ClassItem → Bool
  | .one _ => true
  | .range low high => low.val ≤ high.val

end ClassItem

inductive GlobPart where
  | char (c : CodePoint)
  | any
  | run
  | name
  | oneOf (negated : Bool) (items : List ClassItem)
  -- Nothing, or directories with a slash after them.
  | directories
  -- Nothing, or a slash with directories after it.
  | between
  | slashOrEnd
  -- The end, with or without a slash before it.
  | endWithSlash
deriving DecidableEq

namespace Glob

def slash : CodePoint := .scalar '/'

def newline : CodePoint := .scalar '\n'

def isSlash (c : CodePoint) : Bool := c == slash

def isNewline (c : CodePoint) : Bool := c == newline

-- The end of a path, also before a line end that is its last code point.
def isEnd (t : Text) : Bool := t.isEmpty || t == [newline]

def afterRun (admits : CodePoint → Bool) (goal : Text → Bool) : Text → Bool
  | [] => goal []
  | c :: rest => goal (c :: rest) || (admits c && afterRun admits goal rest)

theorem afterRun_iff (admits : CodePoint → Bool) (goal : Text → Bool) (t : Text) :
    afterRun admits goal t = true ↔
      ∃ run rest, t = run ++ rest ∧ (∀ c ∈ run, admits c = true) ∧ goal rest = true := by
  induction t with
  | nil =>
    constructor
    · intro h
      exact ⟨[], [], rfl, by simp, h⟩
    · rintro ⟨run, rest, split, _, holds⟩
      obtain ⟨rfl, rfl⟩ := List.append_eq_nil_iff.1 split.symm
      exact holds
  | cons c tail ih =>
    simp only [afterRun, Bool.or_eq_true, Bool.and_eq_true, ih]
    constructor
    · rintro (h | ⟨admitted, run, rest, rfl, all, holds⟩)
      · exact ⟨[], c :: tail, rfl, by simp, h⟩
      · refine ⟨c :: run, rest, rfl, ?_, holds⟩
        intro d member
        rcases List.mem_cons.1 member with rfl | member
        · exact admitted
        · exact all d member
    · rintro ⟨run, rest, split, all, holds⟩
      cases run with
      | nil =>
        simp only [List.nil_append] at split
        subst split
        exact Or.inl holds
      | cons d run =>
        simp only [List.cons_append, List.cons.injEq] at split
        obtain ⟨rfl, rfl⟩ := split
        exact Or.inr ⟨all c List.mem_cons_self, run, rest, rfl,
          fun e member => all e (List.mem_cons_of_mem c member), holds⟩

def afterOne (admits : CodePoint → Bool) (goal : Text → Bool) : Text → Bool
  | [] => false
  | c :: rest => admits c && goal rest

def matchesStart : List GlobPart → Text → Bool
  | [], _ => true
  | .char c :: parts, t => afterOne (· == c) (matchesStart parts) t
  | .any :: parts, t => afterOne (fun c => !isSlash c) (matchesStart parts) t
  | .run :: parts, t => afterRun (fun c => !isSlash c) (matchesStart parts) t
  | .name :: parts, t =>
    afterOne (fun c => !isSlash c) (afterRun (fun c => !isSlash c) (matchesStart parts)) t
  | .oneOf negated items :: parts, t =>
    afterOne (fun c => items.any (·.holds c) != negated) (matchesStart parts) t
  | .directories :: parts, t =>
    matchesStart parts t ||
      afterOne (fun c => !isNewline c)
        (afterRun (fun c => !isNewline c) (afterOne isSlash (matchesStart parts))) t
  | .between :: parts, t =>
    matchesStart parts t ||
      afterOne isSlash (afterOne (fun c => !isNewline c)
        (afterRun (fun c => !isNewline c) (matchesStart parts))) t
  | .slashOrEnd :: parts, t =>
    afterOne isSlash (matchesStart parts) t || (isEnd t && matchesStart parts t)
  | .endWithSlash :: parts, t =>
    afterOne isSlash (fun rest => isEnd rest && matchesStart parts rest) t ||
      (isEnd t && matchesStart parts t)

end Glob

end Linkage
