import Linkage.Proofs.DirectoryPatterns

set_option autoImplicit false

namespace Linkage

namespace IgnorePattern

def isLiteral : CodePoint → Bool
  | .scalar c => c.isAlphanum || c == '_' || c == '-' || c == '.'
  | .surrogate _ => false

def Literal (name : Text) : Prop := name ≠ [] ∧ ∀ c ∈ name, isLiteral c = true

instance (name : Text) : Decidable (Literal name) :=
  inferInstanceAs (Decidable (name ≠ [] ∧ ∀ c ∈ name, isLiteral c = true))

def literalParts (name : Text) : List GlobPart := .directories :: (name.map .char ++ [.char Glob.slash])

theorem literal_ne (c other : CodePoint) (literal : isLiteral c = true) (special : isLiteral other = false) :
    c ≠ other := by
  rintro rfl
  rw [literal] at special
  contradiction

theorem literal_is_not (c : CodePoint) (special : Char) (literal : isLiteral c = true)
    (refused : isLiteral (.scalar special) = false) : c.is special = false :=
  beq_eq_false_iff_ne.mpr (literal_ne c (.scalar special) literal refused)

theorem literal_apart (name t : Text) (literal : Literal name) (c : CodePoint) (member : c ∈ t)
    (special : isLiteral c = false) : name ≠ t := by
  rintro rfl
  exact literal_ne c c (literal.2 c member) special rfl

theorem literal_no_slash (name : Text) (literal : Literal name) : Glob.slash ∉ name :=
  fun member => literal_ne _ _ (literal.2 Glob.slash member) (by decide) rfl

theorem component_parts_literal (name : Text) (plain : ∀ c ∈ name, isLiteral c = true) :
    componentParts name.length name = some (name.map .char) := by
  induction name with
  | nil => rfl
  | cons c name ih =>
      obtain ⟨first, others⟩ := List.forall_mem_cons.mp plain
      simp only [List.length_cons, componentParts, ih others,
        if_neg (literal_ne c backslash first (by decide)), if_neg (literal_ne c star first (by decide)),
        literal_is_not c '?' first (by decide), literal_is_not c '[' first (by decide)]
      rfl

theorem components_literal (name : Text) (literal : Literal name) :
    components (name ++ [Glob.slash]) = [doubleStar, name, doubleStar] := by
  have written : Text.splitOn Glob.slash (name ++ [Glob.slash]) = [name, []] := by
    have split := Text.split_on_separator Glob.slash name []
    rwa [Text.split_on_free Glob.slash name (literal_no_slash name literal)] at split
  have apart : name ≠ doubleStar := literal_apart name doubleStar literal star (by decide) (by decide)
  obtain ⟨c, rest, rfl⟩ := List.exists_cons_of_ne_nil literal.1
  simp only [components, written, if_neg apart]
  simp [collapseStars, apart]

theorem matcher_literal (name : Text) (literal : Literal name) :
    matcher? (name ++ [Glob.slash]) = some (.glob (literalParts name)) := by
  have apart : name ≠ doubleStar := literal_apart name doubleStar literal star (by decide) (by decide)
  have other : name ≠ [star] := literal_apart name [star] literal star (by decide) (by decide)
  have own : laterParts.ownParts name false = some (name.map .char) := by
    rw [laterParts.ownParts, if_neg other, component_parts_literal name literal.2]
    simp
  simp only [matcher?, components_literal name literal, other, false_and, and_false, if_false]
  simp only [allParts, if_true, List.isEmpty_cons, own, laterParts, List.isEmpty_nil, literalParts]
  rfl

theorem of_text_literal (name : Text) (literal : Literal name) :
    ofText (name ++ [Glob.slash]) = .ok ⟨false, .glob (literalParts name)⟩ := by
  have ordered : Matcher.isOrdered (.glob (literalParts name)) = true := by
    simp [Matcher.isOrdered, literalParts, GlobPart.isOrdered]
  have found := matcher_literal name literal
  have shown := trimmed_slash name
  obtain ⟨c, rest, rfl⟩ := List.exists_cons_of_ne_nil literal.1
  have first := literal.2 c List.mem_cons_self
  rw [List.cons_append] at found shown ⊢
  simp [ofText, shown, literal_is_not c '#' first (by decide), literal_is_not c '!' first (by decide), found, ordered]

end IgnorePattern

namespace IgnorePatterns

open IgnorePattern (Literal literalParts)

theorem takes_literal (name t : Text) :
    Glob.Takes (.directories :: name.map .char) t ↔
      t = name ∨ ∃ run, t = run ++ Glob.slash :: name ∧ run ≠ [] ∧ Glob.newline ∉ run := by
  constructor
  · rintro ⟨used, rest, rfl, directories, taken⟩
    rw [(Glob.takes_chars name rest).mp taken]
    rcases directories with rfl | ⟨run, rfl, more, free⟩
    · exact Or.inl rfl
    · exact Or.inr ⟨run, by simp, more, free⟩
  · rintro (rfl | ⟨run, rfl, more, free⟩)
    · exact ⟨[], t, rfl, Or.inl rfl, (Glob.takes_chars t t).mpr rfl⟩
    · exact ⟨run ++ [Glob.slash], name, by simp, Or.inr ⟨run, rfl, more, free⟩, (Glob.takes_chars name name).mpr rfl⟩

theorem takes_components_iff (name : Text) (parts : List Text) (literal : Literal name) (inside : parts ≠ [])
    (clean : ∀ part ∈ parts, Path.IsPart part) (unbroken : ∀ part ∈ parts, Glob.newline ∉ part) :
    Glob.Takes (.directories :: name.map .char) (Text.join [Glob.slash] parts) ↔ ∃ above, parts = above ++ [name] := by
  have free : ∀ part ∈ parts, Glob.slash ∉ part := fun part member => (clean part member).2.2
  have alone (own : List Text) (ownInside : own ≠ []) (ownFree : ∀ part ∈ own, Glob.slash ∉ part)
      (spelled : Text.join [Glob.slash] own = name) : own = [name] := by
    rw [← Text.split_on_join Glob.slash own ownInside ownFree, spelled,
      Text.split_on_free Glob.slash name (IgnorePattern.literal_no_slash name literal)]
  rw [takes_literal]
  constructor
  · rintro (spelled | ⟨run, spelled, _, _⟩)
    · exact ⟨[], alone parts inside free spelled⟩
    · obtain ⟨above, last, rfl, _, lastInside, rfl, ended⟩ :=
        (Text.join_split_iff Glob.slash parts run name inside free).mp spelled
      exact ⟨above, by rw [alone last lastInside (fun part member => free part (List.mem_append_right _ member)) ended]⟩
  · rintro ⟨above, rfl⟩
    cases above with
    | nil => exact Or.inl rfl
    | cons first above =>
        have written := Text.join_append [Glob.slash] (first :: above) [name] (List.cons_ne_nil _ _) (List.cons_ne_nil _ _)
        refine Or.inr ⟨Text.join [Glob.slash] (first :: above), by simpa [Text.join] using written, ?_, ?_⟩
        · obtain ⟨start, last, ended, _⟩ := Path.join_end (first :: above) (List.cons_ne_nil _ _)
            fun part member => clean part (List.mem_append_left _ member)
          intro empty
          have spelled : Text.join [Glob.slash] (first :: above) = start ++ [last] := ended
          rw [empty] at spelled
          exact absurd spelled.symm (by simp)
        · intro member
          rcases Text.mem_join [Glob.slash] _ _ member with between | ⟨part, listed, broken⟩
          · exact absurd between (by decide)
          · exact unbroken part (List.mem_append_left _ listed) broken

theorem literal_accepts_iff (name : Text) (front : List Text) (last : Text) (literal : Literal name)
    (clean : ∀ part ∈ front, Path.IsPart part) (unbroken : ∀ part ∈ front, Glob.newline ∉ part)
    (free : Glob.slash ∉ last) :
    Matcher.accepts (Text.join [Glob.slash] (front ++ [last])) (.glob (literalParts name)) = true ↔ name ∈ front := by
  have allOpen : ∀ part ∈ GlobPart.directories :: name.map .char, part.IsOpen := by
    simp [GlobPart.IsOpen]
  have everyFree : ∀ part ∈ front ++ [last], Glob.slash ∉ part :=
    List.forall_mem_append.mpr ⟨fun part member => (clean part member).2.2, by simpa using free⟩
  rw [Matcher.accepts, literalParts, ← List.cons_append, Glob.matches_slash _ _ allOpen]
  constructor
  · rintro ⟨first, back, spelled, taken⟩
    obtain ⟨left, right, split, leftInside, rightInside, rfl, _⟩ :=
      (Text.join_split_iff Glob.slash _ first back (by simp) everyFree).mp spelled
    obtain ⟨others, final, rfl⟩ := (List.eq_nil_or_concat right).resolve_left rightInside
    rw [List.concat_eq_append, ← List.append_assoc] at split
    obtain ⟨rfl, _⟩ := List.append_inj' split rfl
    obtain ⟨above, rfl⟩ := (takes_components_iff name left literal leftInside
      (fun part member => clean part (List.mem_append_left _ member))
      fun part member => unbroken part (List.mem_append_left _ member)).mp taken
    simp
  · intro member
    obtain ⟨above, below, rfl⟩ := List.append_of_mem member
    have inside : ∀ part ∈ above ++ [name], part ∈ above ++ name :: below := by
      intro part listed
      rw [List.append_cons]
      exact List.mem_append_left below listed
    refine ⟨Text.join [Glob.slash] (above ++ [name]), Text.join [Glob.slash] (below ++ [last]), ?_, ?_⟩
    · exact (Text.join_split_iff Glob.slash _ _ _ (by simp) everyFree).mpr
        ⟨above ++ [name], below ++ [last], by simp, by simp, by simp, rfl, rfl⟩
    · exact (takes_components_iff name _ literal (by simp) (fun part listed => clean part (inside part listed))
        fun part listed => unbroken part (inside part listed)).mpr ⟨above, rfl⟩

theorem line_literal (name : Text) (literal : Literal name) :
    line (name ++ [Glob.slash]) =
      some ⟨false, fun path => Matcher.accepts (withoutDot path) (.glob (literalParts name))⟩ := by
  rw [line, IgnorePattern.of_text_literal name literal]

-- Where no line end is in the way, the line of a name hits what lies below a directory of the name.
theorem line_hits_below (name : Text) (parts : List Text) (literal : Literal name) (inside : parts ≠ [])
    (clean : ∀ part ∈ parts, Path.IsPart part) (unbroken : ∀ part ∈ parts, Glob.newline ∉ part) :
    line.HitsBelow parts name := by
  intro own known
  cases (line_literal name literal).symm.trans known
  have written : Path.text ⟨.none, parts⟩ = Text.join [Glob.slash] parts := Path.text_of_parts ⟨.none, parts⟩ inside
  have plain := without_dot_names parts [] inside clean
  rw [List.append_nil] at plain
  constructor
  · obtain ⟨front, last, rfl⟩ := (List.eq_nil_or_concat parts).resolve_left inside
    rw [List.concat_eq_append] at *
    obtain ⟨frontClean, lastClean⟩ := List.forall_mem_append.mp clean
    simp only [plain]
    rw [written, List.dropLast_concat]
    exact literal_accepts_iff name front last literal frontClean (List.forall_mem_append.mp unbroken).1
      (lastClean last (by simp)).2.2
  · have closed : Text.join [Glob.slash] parts ++ [Glob.slash] = Text.join [Glob.slash] (parts ++ [[]]) := by
      rw [Text.join_append [Glob.slash] parts [[]] inside (List.cons_ne_nil _ _)]
      simp [Text.join]
    simp only [without_dot_names parts [Path.slash] inside clean]
    rw [written]
    change Matcher.accepts (Text.join [Glob.slash] parts ++ [Glob.slash]) _ = true ↔ _
    rw [closed]
    exact literal_accepts_iff name parts [] literal clean unbroken (by simp)

end IgnorePatterns

end Linkage
