import Linkage.Project
import Linkage.Proofs.SurveyPartition

set_option autoImplicit false

namespace Linkage

structure IgnoreLine where
  negated : Bool
  hits : Text → Bool

-- Reads a line; nothing if it is no pattern.
abbrev LineReader := Text → Option IgnoreLine

namespace LineReader

variable (read : LineReader)

abbrev Catching := Text → IgnoreLine → Prop

def Hitting (path : Text) : Catching := fun _ own => own.hits path = true

def Valid (line : Text) : Prop := ∃ own, read line = some own

def Hiding (line : Text) : Prop := ∃ own, read line = some own ∧ own.negated = false

def Silent (catches : Catching) (lines : List Text) : Prop :=
  ∀ line ∈ lines, ∀ own, read line = some own → ¬ catches line own

def Decides (catches : Catching) (lines : List Text) : Prop :=
  ∃ front line back own, lines = front ++ line :: back ∧ read line = some own ∧ catches line own ∧
    own.negated = false ∧ read.Silent catches back

theorem silent_congr (catches other : Catching) (lines : List Text)
    (same : ∀ line ∈ lines, ∀ own, read line = some own → (catches line own ↔ other line own)) :
    read.Silent catches lines ↔ read.Silent other lines := by
  constructor
  · intro silent line listed own known caught
    exact silent line listed own known ((same line listed own known).mpr caught)
  · intro silent line listed own known caught
    exact silent line listed own known ((same line listed own known).mp caught)

theorem decides_of_congr (catches other : Catching) (lines : List Text)
    (same : ∀ line ∈ lines, ∀ own, read line = some own → (catches line own ↔ other line own))
    (decides : read.Decides catches lines) : read.Decides other lines := by
  obtain ⟨front, line, back, own, split, known, caught, kept, silent⟩ := decides
  rw [split] at same
  have here := same line (by simp) own known
  have later := read.silent_congr catches other back fun later listed => same later (by simp [listed])
  exact ⟨front, line, back, own, split, known, here.mp caught, kept, later.mp silent⟩

theorem decides_congr (catches other : Catching) (lines : List Text)
    (same : ∀ line ∈ lines, ∀ own, read line = some own → (catches line own ↔ other line own)) :
    read.Decides catches lines ↔ read.Decides other lines :=
  ⟨read.decides_of_congr catches other lines same,
    read.decides_of_congr other catches lines fun line listed own known => (same line listed own known).symm⟩

theorem decides_nil (catches : Catching) : ¬ read.Decides catches [] := by
  rintro ⟨front, line, back, own, split, _⟩
  simp at split

theorem decides_cons (catches : Catching) (line : Text) (lines : List Text) (own : IgnoreLine)
    (known : read line = some own) :
    read.Decides catches (line :: lines) ↔
      read.Decides catches lines ∨ (catches line own ∧ own.negated = false ∧ read.Silent catches lines) := by
  constructor
  · rintro ⟨front, here, back, other, split, otherKnown, caught, kept, silent⟩
    cases front with
    | nil =>
        obtain ⟨rfl, rfl⟩ := List.cons.inj split
        have same : own = other := Option.some.inj (known.symm.trans otherKnown)
        rw [same]
        exact Or.inr ⟨caught, kept, silent⟩
    | cons first front =>
        obtain ⟨_, rfl⟩ := List.cons.inj split
        exact Or.inl ⟨front, here, back, other, rfl, otherKnown, caught, kept, silent⟩
  · rintro (⟨front, here, back, other, rfl, decided⟩ | ⟨caught, kept, silent⟩)
    · exact ⟨line :: front, here, back, other, rfl, decided⟩
    · exact ⟨[], line, lines, own, rfl, known, caught, kept, silent⟩

theorem silent_cons (catches : Catching) (line : Text) (lines : List Text) (own : IgnoreLine)
    (known : read line = some own) :
    read.Silent catches (line :: lines) ↔ ¬ catches line own ∧ read.Silent catches lines := by
  rw [Silent, List.forall_mem_cons, known]
  simp only [Option.some.injEq, forall_eq']
  rfl

theorem silent_subset (catches : Catching) (lines more : List Text) (inside : lines ⊆ more)
    (silent : read.Silent catches more) : read.Silent catches lines := fun line listed => silent line (inside listed)

theorem silent_append (catches : Catching) (lines more : List Text) (first : read.Silent catches lines)
    (second : read.Silent catches more) : read.Silent catches (lines ++ more) :=
  List.forall_mem_append.mpr ⟨first, second⟩

theorem decides_append (catches : Catching) (lines more : List Text) (silent : read.Silent catches more) :
    read.Decides catches (lines ++ more) ↔ read.Decides catches lines := by
  constructor
  · rintro ⟨front, line, back, own, split, known, caught, kept, quiet⟩
    have early : line ∉ more := fun listed => silent line listed own known caught
    rcases List.append_eq_append_iff.mp split with ⟨between, _, rest⟩ | ⟨between, first, rest⟩
    · exact absurd (rest ▸ List.mem_append_right between List.mem_cons_self) early
    · cases between with
      | nil =>
          rw [List.nil_append] at rest
          exact absurd (rest ▸ List.mem_cons_self) early
      | cons here between =>
          obtain ⟨rfl, rfl⟩ := List.cons.inj rest
          exact ⟨front, line, between, own, first, known, caught, kept,
            read.silent_subset catches _ _ (List.subset_append_left between more) quiet⟩
  · rintro ⟨front, line, back, own, split, known, caught, kept, quiet⟩
    exact ⟨front, line, back ++ more, own, by rw [split, List.append_assoc, List.cons_append], known, caught, kept,
      read.silent_append catches back more quiet silent⟩

theorem decides_hiding (catches : Catching) (lines : List Text) (hide : ∀ line ∈ lines, read.Hiding line) :
    read.Decides catches lines ↔ ¬ read.Silent catches lines := by
  induction lines with
  | nil => simp [decides_nil, Silent]
  | cons line lines ih =>
      obtain ⟨⟨own, known, kept⟩, others⟩ := List.forall_mem_cons.mp hide
      rw [read.decides_cons catches line lines own known, read.silent_cons catches line lines own known, ih others]
      constructor
      · rintro (loud | ⟨caught, _, _⟩) ⟨quiet, silent⟩
        · exact loud silent
        · exact quiet caught
      · intro loud
        by_cases silent : read.Silent catches lines
        · exact Or.inr ⟨Classical.not_not.mp fun quiet => loud ⟨quiet, silent⟩, kept, silent⟩
        · exact Or.inl silent

theorem hiding_valid (lines : List Text) (hide : ∀ line ∈ lines, read.Hiding line) : ∀ line ∈ lines, read.Valid line := by
  intro line listed
  obtain ⟨own, known, _⟩ := hide line listed
  exact ⟨own, known⟩

-- What the line of a name and a slash is to do: it hits what lies below a directory of the name, at any depth,
-- and a directory of the name itself.
def HitsBelow (parts : List Text) (name : Text) : Prop :=
  ∀ own, read (name ++ [Path.slash]) = some own →
    (own.hits (Path.text ⟨.none, parts⟩) = true ↔ name ∈ parts.dropLast) ∧
    (own.hits (Path.text ⟨.none, parts⟩ ++ [Path.slash]) = true ↔ name ∈ parts)

end LineReader

-- Lists of patterns can be used, and of the lines that hit a path, each by itself, the last decides.
def LastDecides (compile : PatternReader) (read : LineReader) : Prop :=
  ∀ lines, (∀ line ∈ lines, read.Valid line) →
    ∃ rules, compile (lines.map .str) = .ok rules ∧
      ∀ path, rules path = true ↔ read.Decides (LineReader.Hitting path) lines

namespace Project

theorem ignores_below (host : Host) (rules : IgnoreRules) (project path base : Path) (rest : List Text)
    (based : host.settle project = .ok base) (settled : host.settle path = .ok ⟨base.root, base.parts ++ rest⟩) :
    ignores host rules project path = true ↔
      rules (Path.text ⟨.none, rest⟩) = true ∨ rules (Path.text ⟨.none, rest⟩ ++ [Path.slash]) = true := by
  rw [ignores, settled, based]
  simp only [IgnoreRules.ignores, Survey.relative_to_root, IgnoreRules.ignoresRelative, Bool.or_eq_true]

end Project

end Linkage
