import Linkage.Ignore.Pattern
import Linkage.Proofs.IgnoreLines

set_option autoImplicit false

namespace Linkage

namespace IgnorePatterns

def line : LineReader := fun text =>
  match IgnorePattern.ofText text with
  | .ok pattern => some ⟨pattern.negated, fun path => pattern.matcher.accepts (withoutDot path)⟩
  | .error _ => none

theorem line_known (text : Text) (own : IgnoreLine) (known : line text = some own) :
    ∃ pattern, IgnorePattern.ofText text = .ok pattern ∧
      own = ⟨pattern.negated, fun path => pattern.matcher.accepts (withoutDot path)⟩ := by
  rw [line] at known
  split at known
  · rename_i pattern found
    exact ⟨pattern, found, (Option.some.inj known).symm⟩
  · cases known

theorem verdict_cons (pattern : IgnorePattern) (patterns : IgnorePatterns) (path : Text) :
    verdict (pattern :: patterns) path = true ↔
      verdict patterns path = true ∨ (pattern.matcher.accepts path = true ∧ pattern.negated = false ∧
        ∀ other ∈ patterns, other.matcher.accepts path = false) := by
  rw [verdict, verdict, List.reverse_cons, List.find?_append]
  cases found : patterns.reverse.find? fun p => p.matcher.accepts path with
  | some last =>
      have member := List.mem_reverse.mp (List.mem_of_find?_eq_some found)
      have accepted := List.find?_some found
      simp only [Option.some_or]
      constructor
      · intro kept
        exact Or.inl kept
      · rintro (kept | ⟨_, _, silent⟩)
        · exact kept
        · rw [silent last member] at accepted
          contradiction
  | none =>
      have silent : ∀ other ∈ patterns, other.matcher.accepts path = false := by
        simpa using List.find?_eq_none.mp found
      cases accepted : pattern.matcher.accepts path with
      | false => simp [accepted]
      | true => simpa [accepted] using fun _ => silent

-- An empty line is left out, which changes nothing: it would match nothing.
theorem of_entries_cons (text : Text) (lines : List Text) (pattern : IgnorePattern) (later : IgnorePatterns)
    (found : IgnorePattern.ofText text = .ok pattern) (others : ofEntries (lines.map .str) = .ok later) :
    ∃ patterns, ofEntries ((text :: lines).map .str) = .ok patterns ∧
      (patterns = pattern :: later ∨ (pattern.matcher = .never ∧ patterns = later)) := by
  rw [List.map_cons, ofEntries]
  cases text with
  | nil =>
      cases found
      exact ⟨later, others, Or.inr ⟨rfl, rfl⟩⟩
  | cons c text => exact ⟨pattern :: later, by rw [if_pos (by rfl), found, others]; rfl, Or.inl rfl⟩

theorem of_entries_lines (lines : List Text) (valid : ∀ text ∈ lines, line.Valid text) :
    ∃ patterns, ofEntries (lines.map .str) = .ok patterns ∧ ∀ path,
      ((∀ pattern ∈ patterns, pattern.matcher.accepts (withoutDot path) = false) ↔
        line.Silent (LineReader.Hitting path) lines) ∧
      (rules patterns path = true ↔ line.Decides (LineReader.Hitting path) lines) := by
  induction lines with
  | nil => exact ⟨[], rfl, fun path => ⟨by simp [LineReader.Silent], by simp [rules, verdict, LineReader.decides_nil]⟩⟩
  | cons text lines ih =>
      obtain ⟨⟨own, known⟩, others⟩ := List.forall_mem_cons.mp valid
      obtain ⟨later, laterRead, said⟩ := ih others
      obtain ⟨pattern, found, rfl⟩ := line_known text own known
      obtain ⟨patterns, read, form⟩ := of_entries_cons text lines pattern later found laterRead
      refine ⟨patterns, read, ?_⟩
      intro path
      obtain ⟨silent, decided⟩ := said path
      rw [line.silent_cons _ text lines _ known, line.decides_cons _ text lines _ known, ← silent, ← decided]
      rcases form with rfl | ⟨never, rfl⟩
      · constructor
        · rw [List.forall_mem_cons, LineReader.Hitting, Bool.not_eq_true]
        · exact verdict_cons pattern later (withoutDot path)
      · simp [LineReader.Hitting, never, Matcher.accepts]

theorem last_decides : LastDecides reader line := by
  intro lines valid
  obtain ⟨patterns, read, said⟩ := of_entries_lines lines valid
  exact ⟨rules patterns, by rw [reader, read]; rfl, fun path => (said path).2⟩

theorem without_dot_names (parts : List Text) (tail : Text) (inside : parts ≠ [])
    (clean : ∀ part ∈ parts, Path.IsPart part) :
    withoutDot (Path.text ⟨.none, parts⟩ ++ tail) = Path.text ⟨.none, parts⟩ ++ tail := by
  rw [withoutDot]
  cases stripped : Text.strip? (Text.ofString "./") (Path.text ⟨.none, parts⟩ ++ tail) with
  | none => rfl
  | some rest =>
      -- The first component would be a dot or have a slash in it.
      have written : Text.ofString "./" = [.scalar '.', Path.slash] := by decide
      have split := Text.strip?_eq_some_iff.mp stripped
      obtain ⟨part, others, rfl⟩ := List.exists_cons_of_ne_nil inside
      obtain ⟨nonempty, notDot, free⟩ := clean part List.mem_cons_self
      obtain ⟨more, begun⟩ : ∃ more, Path.text ⟨.none, part :: others⟩ ++ tail = part ++ more := by
        rw [Path.text_of_parts _ (List.cons_ne_nil part others)]
        cases others with
        | nil => exact ⟨tail, rfl⟩
        | cons next others => exact ⟨[Path.slash] ++ Text.join [Path.slash] (next :: others) ++ tail, by
            simp [Path.Root.text, Text.join]⟩
      rw [begun, written] at split
      cases part with
      | nil => contradiction
      | cons c part =>
          obtain ⟨rfl, later⟩ := List.cons.inj split
          cases part with
          | nil => exact absurd rfl notDot
          | cons d part =>
              obtain ⟨rfl, _⟩ := List.cons.inj later
              exact absurd (by simp) free

end IgnorePatterns

end Linkage
