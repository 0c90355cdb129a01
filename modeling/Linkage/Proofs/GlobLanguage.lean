import Linkage.Ignore.Glob

set_option autoImplicit false

namespace Linkage

namespace GlobPart

-- Parts that do not look for the end of a path.
def IsOpen : GlobPart → Prop
  | .slashOrEnd | .endWithSlash => False
  | .char _ | .any | .run | .name | .oneOf _ _ | .directories | .between => True

def Takes : GlobPart → Text → Prop
  | .char c, t => t = [c]
  | .any, t => ∃ c, t = [c] ∧ Glob.isSlash c = false
  | .run, t => ∀ c ∈ t, Glob.isSlash c = false
  | .name, t => t ≠ [] ∧ ∀ c ∈ t, Glob.isSlash c = false
  | .oneOf negated items, t => ∃ c, t = [c] ∧ items.any (·.holds c) ≠ negated
  | .directories, t => t = [] ∨ ∃ run, t = run ++ [Glob.slash] ∧ run ≠ [] ∧ Glob.newline ∉ run
  | .between, t => t = [] ∨ ∃ run, t = Glob.slash :: run ∧ run ≠ [] ∧ Glob.newline ∉ run
  | .slashOrEnd, _ | .endWithSlash, _ => False

end GlobPart

namespace Glob

def Takes : List GlobPart → Text → Prop
  | [], t => t = []
  | part :: parts, t => ∃ used rest, t = used ++ rest ∧ part.Takes used ∧ Takes parts rest

theorem after_one_iff (admits : CodePoint → Bool) (goal : Text → Bool) (t : Text) :
    afterOne admits goal t = true ↔ ∃ c rest, t = c :: rest ∧ admits c = true ∧ goal rest = true := by
  cases t with
  | nil => simp [afterOne]
  | cons c rest =>
      rw [afterOne, Bool.and_eq_true]
      constructor
      · intro both
        exact ⟨c, rest, rfl, both⟩
      · rintro ⟨_, _, ⟨⟩, both⟩
        exact both

theorem after_some_iff (admits : CodePoint → Bool) (goal : Text → Bool) (t : Text) :
    afterOne admits (afterRun admits goal) t = true ↔
      ∃ run rest, t = run ++ rest ∧ run ≠ [] ∧ (∀ c ∈ run, admits c = true) ∧ goal rest = true := by
  rw [after_one_iff]
  constructor
  · rintro ⟨c, tail, rfl, admitted, later⟩
    obtain ⟨run, rest, rfl, all, holds⟩ := (afterRun_iff admits goal tail).mp later
    exact ⟨c :: run, rest, rfl, List.cons_ne_nil c run, List.forall_mem_cons.mpr ⟨admitted, all⟩, holds⟩
  · rintro ⟨run, rest, rfl, nonempty, all, holds⟩
    cases run with
    | nil => contradiction
    | cons c run =>
        obtain ⟨admitted, others⟩ := List.forall_mem_cons.mp all
        exact ⟨c, run ++ rest, rfl, admitted, (afterRun_iff admits goal _).mpr ⟨run, rest, rfl, others, holds⟩⟩

theorem is_slash_iff (c : CodePoint) : isSlash c = true ↔ c = slash := beq_iff_eq

theorem no_newline_iff (run : Text) : (∀ c ∈ run, (!isNewline c) = true) ↔ newline ∉ run := by
  constructor
  · intro all member
    have other := all newline member
    simp [isNewline] at other
  · intro free c member
    have other : c ≠ newline := fun same => free (same ▸ member)
    simpa [isNewline] using other

theorem matches_cons (part : GlobPart) (parts : List GlobPart) (t : Text) (isOpen : part.IsOpen) :
    matchesStart (part :: parts) t = true ↔
      ∃ used rest, t = used ++ rest ∧ part.Takes used ∧ matchesStart parts rest = true := by
  cases part with
  | char c =>
      rw [matchesStart, after_one_iff]
      constructor
      · rintro ⟨own, rest, rfl, same, holds⟩
        exact ⟨[own], rest, rfl, by rw [eq_of_beq same]; rfl, holds⟩
      · rintro ⟨used, rest, rfl, rfl, holds⟩
        exact ⟨c, rest, rfl, beq_self_eq_true c, holds⟩
  | any =>
      rw [matchesStart, after_one_iff]
      constructor
      · rintro ⟨c, rest, rfl, other, holds⟩
        exact ⟨[c], rest, rfl, ⟨c, rfl, by simpa using other⟩, holds⟩
      · rintro ⟨used, rest, rfl, ⟨c, rfl, other⟩, holds⟩
        exact ⟨c, rest, rfl, by simpa using other, holds⟩
  | run =>
      rw [matchesStart, afterRun_iff]
      simp only [Bool.not_eq_true']
      rfl
  | name =>
      rw [matchesStart, after_some_iff]
      simp only [Bool.not_eq_true', GlobPart.Takes, and_assoc]
  | oneOf negated items =>
      rw [matchesStart, after_one_iff]
      constructor
      · rintro ⟨c, rest, rfl, admitted, holds⟩
        exact ⟨[c], rest, rfl, ⟨c, rfl, bne_iff_ne.mp admitted⟩, holds⟩
      · rintro ⟨used, rest, rfl, ⟨c, rfl, admitted⟩, holds⟩
        exact ⟨c, rest, rfl, bne_iff_ne.mpr admitted, holds⟩
  | directories =>
      rw [matchesStart, Bool.or_eq_true, after_some_iff]
      constructor
      · rintro (holds | ⟨run, _, rfl, nonempty, all, later⟩)
        · exact ⟨[], t, rfl, Or.inl rfl, holds⟩
        · obtain ⟨c, rest, rfl, isSlash, holds⟩ := (after_one_iff _ _ _).mp later
          rw [(is_slash_iff c).mp isSlash]
          exact ⟨run ++ [slash], rest, by simp, Or.inr ⟨run, rfl, nonempty, (no_newline_iff run).mp all⟩, holds⟩
      · rintro ⟨used, rest, rfl, rfl | ⟨run, rfl, nonempty, free⟩, holds⟩
        · exact Or.inl holds
        · refine Or.inr ⟨run, slash :: rest, by simp, nonempty, (no_newline_iff run).mpr free, ?_⟩
          exact (after_one_iff _ _ _).mpr ⟨slash, rest, rfl, (is_slash_iff slash).mpr rfl, holds⟩
  | between =>
      rw [matchesStart, Bool.or_eq_true, after_one_iff]
      constructor
      · rintro (holds | ⟨c, _, rfl, isSlash, later⟩)
        · exact ⟨[], t, rfl, Or.inl rfl, holds⟩
        · obtain ⟨run, rest, rfl, nonempty, all, holds⟩ := (after_some_iff _ _ _).mp later
          rw [(is_slash_iff c).mp isSlash]
          exact ⟨slash :: run, rest, rfl, Or.inr ⟨run, rfl, nonempty, (no_newline_iff run).mp all⟩, holds⟩
      · rintro ⟨used, rest, rfl, rfl | ⟨run, rfl, nonempty, free⟩, holds⟩
        · exact Or.inl holds
        · refine Or.inr ⟨slash, run ++ rest, rfl, (is_slash_iff slash).mpr rfl, ?_⟩
          exact (after_some_iff _ _ _).mpr ⟨run, rest, rfl, nonempty, (no_newline_iff run).mpr free, holds⟩
  | slashOrEnd => contradiction
  | endWithSlash => contradiction

theorem matches_append (parts others : List GlobPart) (t : Text) (allOpen : ∀ part ∈ parts, part.IsOpen) :
    matchesStart (parts ++ others) t = true ↔
      ∃ used rest, t = used ++ rest ∧ Takes parts used ∧ matchesStart others rest = true := by
  induction parts generalizing t with
  | nil =>
      constructor
      · intro holds
        exact ⟨[], t, rfl, rfl, holds⟩
      · rintro ⟨_, rest, rfl, rfl, holds⟩
        exact holds
  | cons part parts ih =>
      obtain ⟨isOpen, later⟩ := List.forall_mem_cons.mp allOpen
      rw [List.cons_append, matches_cons part _ t isOpen]
      constructor
      · rintro ⟨first, _, rfl, taken, holds⟩
        obtain ⟨used, rest, rfl, others, ended⟩ := (ih _ later).mp holds
        exact ⟨first ++ used, rest, by simp, ⟨first, used, rfl, taken, others⟩, ended⟩
      · rintro ⟨_, rest, rfl, ⟨first, used, rfl, taken, others⟩, ended⟩
        exact ⟨first, used ++ rest, by simp, taken, (ih _ later).mpr ⟨used, rest, rfl, others, ended⟩⟩

-- Parts that end with a slash match by a slash of the path and what stands before it.
theorem matches_slash (parts : List GlobPart) (t : Text) (allOpen : ∀ part ∈ parts, part.IsOpen) :
    matchesStart (parts ++ [.char slash]) t = true ↔ ∃ front back, t = front ++ slash :: back ∧ Takes parts front := by
  rw [matches_append parts _ t allOpen]
  constructor
  · rintro ⟨front, rest, rfl, taken, ended⟩
    obtain ⟨used, back, rfl, rfl, _⟩ := (matches_cons (.char slash) [] rest trivial).mp ended
    exact ⟨front, back, rfl, taken⟩
  · rintro ⟨front, back, rfl, taken⟩
    exact ⟨front, slash :: back, rfl, taken, (matches_cons (.char slash) _ _ trivial).mpr ⟨[slash], back, rfl, rfl, rfl⟩⟩

theorem takes_chars (name : Text) (t : Text) : Takes (name.map .char) t ↔ t = name := by
  induction name generalizing t with
  | nil => rfl
  | cons c name ih =>
      constructor
      · rintro ⟨used, rest, rfl, rfl, taken⟩
        rw [(ih rest).mp taken]
        rfl
      · rintro rfl
        exact ⟨[c], name, rfl, rfl, (ih name).mpr rfl⟩

end Glob

end Linkage
