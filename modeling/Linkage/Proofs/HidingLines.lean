import Linkage.Proofs.IgnoreVerdict
import Mathlib.Data.List.Basic

set_option autoImplicit false

namespace Linkage

namespace Project

-- The text by which a path is known below a project.
def Known (host : Host) (project path : Path) (name : Text) : Prop :=
  ∃ place base parts, host.settle path = .ok place ∧ host.settle project = .ok base ∧
    place.relativeTo? base = some parts ∧ name = Path.text ⟨.none, parts⟩

-- The two forms of it that patterns are asked about.
def asked (name : Text) : List Text := [name, name ++ [Path.slash]]

theorem ignores_iff (host : Host) (rules : IgnoreRules) (project path : Path) :
    ignores host rules project path = true ↔
      ∃ name, Known host project path name ∧ ∃ form ∈ asked name, rules form = true := by
  constructor
  · intro ignored
    rw [ignores] at ignored
    split at ignored
    · rename_i place base settled based
      rw [IgnoreRules.ignores] at ignored
      split at ignored
      · rename_i parts below
        refine ⟨_, ⟨place, base, parts, settled, based, below, rfl⟩, ?_⟩
        simpa [asked, IgnoreRules.ignoresRelative] using ignored
      · cases ignored
    · cases ignored
  · rintro ⟨_, ⟨place, base, parts, settled, based, below, rfl⟩, said⟩
    rw [ignores, settled, based]
    simp only [IgnoreRules.ignores, below, IgnoreRules.ignoresRelative]
    simpa [asked] using said

theorem ignores_mono (host : Host) (rules others : IgnoreRules) (project path : Path)
    (more : ∀ name, Known host project path name → ∀ form ∈ asked name,
      rules form = true → others form = true)
    (ignored : ignores host rules project path = true) : ignores host others project path = true := by
  obtain ⟨name, known, form, listed, said⟩ := (ignores_iff host rules project path).mp ignored
  exact (ignores_iff host others project path).mpr ⟨name, known, form, listed, more name known form listed said⟩

theorem ignores_congr (host : Host) (rules others : IgnoreRules) (project path : Path)
    (same : ∀ name, Known host project path name → ∀ form ∈ asked name,
      rules form = others form) :
    ignores host rules project path = ignores host others project path := by
  rw [Bool.eq_iff_iff]
  constructor
  · exact ignores_mono host rules others project path fun name known form listed => (same name known form listed ▸ ·)
  · exact ignores_mono host others rules project path fun name known form listed => (same name known form listed ▸ ·)

end Project

namespace Survey

-- A path that is left out leaves the order of the others as it is.
theorem sorted_sublist (paths others : List Path) (part : paths.Sublist others) : (sorted paths).Sublist (sorted others) := by
  have trans := fun a b c : Path => Text.le_trans a.text b.text c.text
  have total := fun a b : Path => Text.le_total a.text b.text
  induction part with
  | slnil => exact List.Sublist.refl _
  | @cons paths others path _ ih =>
      obtain ⟨before, after, whole, rest, _⟩ := List.mergeSort_cons trans total path others
      rw [sorted, sorted, rest] at ih
      rw [sorted, sorted, whole]
      exact ih.middle path
  | @cons_cons paths others path _ ih =>
      obtain ⟨before, after, whole, rest, smaller⟩ := List.mergeSort_cons trans total path paths
      obtain ⟨otherBefore, otherAfter, otherWhole, otherRest, otherSmaller⟩ :=
        List.mergeSort_cons trans total path others
      have larger : ∀ b ∈ after, Text.le path.text b.text = true := by
        have ordered := sorted_ordered (path :: paths)
        rw [sorted, whole] at ordered
        exact (List.pairwise_cons.mp (List.pairwise_append.mp ordered).2.1).1
      have otherLarger : ∀ b ∈ otherAfter, Text.le path.text b.text = true := by
        have ordered := sorted_ordered (path :: others)
        rw [sorted, otherWhole] at ordered
        exact (List.pairwise_cons.mp (List.pairwise_append.mp ordered).2.1).1
      rw [sorted, sorted, rest, otherRest] at ih
      rw [sorted, sorted, whole, otherWhole]
      -- What comes before the path in the one list does not come after it in the other.
      have front : before.Sublist otherBefore := by
        refine List.Sublist.of_sublist_append_left ?_ ((List.sublist_append_left before after).trans ih)
        intro b early late
        simpa [otherLarger b late] using smaller b early
      have back : after.Sublist otherAfter := by
        refine List.Sublist.of_sublist_append_right ?_ ((List.sublist_append_right before after).trans ih)
        intro b late early
        simpa [larger b late] using otherSmaller b early
      exact front.append (back.cons_cons path)

inductive Shrinks : Except Failure (List Path) → Except Failure (List Path) → Prop where
  | fails (failure : Failure) : Shrinks (.error failure) (.error failure)
  | files (all fewer : List Path) (part : fewer.Sublist all) : Shrinks (.ok all) (.ok fewer)

theorem collect_shrinks (host : Host) (path project : Path) (rules longer : IgnoreRules) (extensions : Json)
    (more : ∀ file, Project.ignores host rules project file = true → Project.ignores host longer project file = true) :
    Shrinks (collect host path project rules extensions) (collect host path project longer extensions) := by
  have fewer (wanted : List Text) (file : Path) (kept : wants host wanted longer project file = true) :
      wants host wanted rules project file = true := by
    rw [wants, Bool.and_eq_true, Bool.not_eq_true'] at kept ⊢
    refine ⟨kept.1, Bool.eq_false_iff.mpr fun ignored => ?_⟩
    rw [more file ignored] at kept
    cases kept.2
  rw [collect, collect]
  cases host.settle path with
  | error failure => exact .fails failure
  | ok place =>
      cases suffixes extensions with
      | error failure => exact .fails failure
      | ok wanted =>
          simp only [Failure.ok_bind]
          cases host.look place with
          | error failure => exact .fails failure
          | ok found =>
              cases found with
              | none => exact .files [] [] (List.Sublist.refl _)
              | some entry =>
                  cases entry with
                  | file content =>
                      refine .files _ _ ?_
                      by_cases kept : wants host wanted longer project place = true
                      · rw [if_pos kept, if_pos (fewer wanted place kept)]
                      · rw [if_neg kept]
                        exact List.nil_sublist _
                  | directory entries =>
                      simp only [Failure.ok_bind]
                      cases host.regular (FileTree.within place (.directory entries)) with
                      | error failure => exact .fails failure
                      | ok regular =>
                          exact .files _ _ (sorted_sublist _ _ (List.monotone_filter_right _ (fewer wanted)))

end Survey

namespace LineReader

theorem hiding_lines_grow (host : Host) (read : LineReader) (last : LastDecides host.compile read) (project : Path) :
    (∀ lines reordered more : List Text, (∀ line ∈ lines, read.Hiding line) → (∀ line ∈ more, read.Hiding line) →
      lines.Perm reordered →
      ∃ rules others longer, host.compile (lines.map .str) = .ok rules ∧
        host.compile (reordered.map .str) = .ok others ∧ host.compile ((lines ++ more).map .str) = .ok longer ∧
        (∀ path, Project.ignores host others project path = Project.ignores host rules project path) ∧
        (∀ path, Project.ignores host rules project path = true → Project.ignores host longer project path = true) ∧
        ∀ path extensions, Survey.Shrinks (Survey.collect host path project rules extensions)
          (Survey.collect host path project longer extensions)) ∧
    ∀ lines more : List Text, (∀ line ∈ lines ++ more, read.Valid line) →
      ∃ rules longer, host.compile (lines.map .str) = .ok rules ∧
        host.compile ((lines ++ more).map .str) = .ok longer ∧
        ∀ path, (∀ name, Project.Known host project path name →
            ∀ form ∈ Project.asked name, read.Silent (Hitting form) more) →
          Project.ignores host longer project path = Project.ignores host rules project path := by
  constructor
  · intro lines reordered more hide moreHide order
    have otherHide : ∀ line ∈ reordered, read.Hiding line := fun line listed => hide line (order.mem_iff.mpr listed)
    have longerHide : ∀ line ∈ lines ++ more, read.Hiding line := List.forall_mem_append.mpr ⟨hide, moreHide⟩
    obtain ⟨rules, compiled, said⟩ := last lines (read.hiding_valid lines hide)
    obtain ⟨others, otherCompiled, otherSaid⟩ := last reordered (read.hiding_valid reordered otherHide)
    obtain ⟨longer, longerCompiled, longerSaid⟩ := last (lines ++ more) (read.hiding_valid _ longerHide)
    have grows : ∀ path, Project.ignores host rules project path = true →
        Project.ignores host longer project path = true := by
      intro path
      apply Project.ignores_mono
      intro name _ form _ ignored
      rw [said, read.decides_hiding _ lines hide] at ignored
      rw [longerSaid, read.decides_hiding _ _ longerHide]
      exact mt (read.silent_subset _ _ _ (List.subset_append_left lines more)) ignored
    refine ⟨rules, others, longer, compiled, otherCompiled, longerCompiled, ?_, grows, ?_⟩
    · intro path
      apply Project.ignores_congr
      intro name _ form _
      rw [Bool.eq_iff_iff, otherSaid, said, read.decides_hiding _ reordered otherHide, read.decides_hiding _ lines hide,
        not_iff_not]
      exact ⟨read.silent_subset _ _ _ order.subset, read.silent_subset _ _ _ order.symm.subset⟩
    · intro path extensions
      exact Survey.collect_shrinks host path project rules longer extensions grows
  · intro lines more valid
    obtain ⟨rules, compiled, said⟩ := last lines (List.forall_mem_append.mp valid).1
    obtain ⟨longer, longerCompiled, longerSaid⟩ := last (lines ++ more) valid
    refine ⟨rules, longer, compiled, longerCompiled, ?_⟩
    intro path unmatched
    apply Project.ignores_congr
    intro name known form listed
    rw [Bool.eq_iff_iff, longerSaid, said]
    exact read.decides_append _ lines more (unmatched name known form listed)

def upperFile : Path := Survey.twoFilesPlace.child (Text.ofString "b.ts")

def starLine : Text := Text.ofString "b.*"

def upperNegation : Text := Text.ofString "!b.ts"

def lowerLine : Text := Text.ofString "a/"

def idleLine : Text := Text.ofString "x/"

theorem lower_line_silent (name : Text) (known : Project.Known Survey.twoFiles Survey.twoFilesPlace upperFile name) :
    ∀ form ∈ Project.asked name, IgnorePatterns.line.Silent (Hitting form) [lowerLine] := by
  obtain ⟨place, base, parts, settled, based, below, rfl⟩ := known
  have own : upperFile = place := Except.ok.inj settled
  have project : Survey.twoFilesPlace = base := Except.ok.inj based
  rw [← own, ← project] at below
  have rest : [Text.ofString "b.ts"] = parts := Option.some.inj below
  have unmatched : ∀ form ∈ Project.asked (Path.text ⟨.none, [Text.ofString "b.ts"]⟩), ∀ line,
      IgnorePatterns.line lowerLine = some line → line.hits form = false := by
    intro form listed line read
    cases read
    revert form
    decide
  rw [← rest]
  intro form listed line only own read
  rw [List.mem_singleton.mp only] at read
  rw [Hitting, unmatched form listed own read]
  decide

theorem hiding_lines_grow_two_files :
    (∃ rules others longer, Survey.twoFiles.compile ([starLine, idleLine].map .str) = .ok rules ∧
      Survey.twoFiles.compile ([idleLine, starLine].map .str) = .ok others ∧
      Survey.twoFiles.compile ([starLine, idleLine, lowerLine].map .str) = .ok longer ∧
      Project.ignores Survey.twoFiles others Survey.twoFilesPlace upperFile = true ∧
      Project.ignores Survey.twoFiles longer Survey.twoFilesPlace upperFile = true ∧
      Survey.Shrinks
        (Survey.collect Survey.twoFiles Survey.twoFilesPlace Survey.twoFilesPlace rules (.texts Resolver.defaultExtensions))
        (Survey.collect Survey.twoFiles Survey.twoFilesPlace Survey.twoFilesPlace longer
          (.texts Resolver.defaultExtensions))) ∧
    ∃ rules longer, Survey.twoFiles.compile ([starLine, upperNegation].map .str) = .ok rules ∧
      Survey.twoFiles.compile ([starLine, upperNegation, lowerLine].map .str) = .ok longer ∧
      Project.ignores Survey.twoFiles longer Survey.twoFilesPlace upperFile =
        Project.ignores Survey.twoFiles rules Survey.twoFilesPlace upperFile := by
  have star : IgnorePatterns.line.Hiding starLine := ⟨_, rfl, rfl⟩
  have lower : IgnorePatterns.line.Hiding lowerLine := ⟨_, rfl, rfl⟩
  have idle : IgnorePatterns.line.Hiding idleLine := ⟨_, rfl, rfl⟩
  obtain ⟨grows, keeps⟩ := hiding_lines_grow Survey.twoFiles IgnorePatterns.line IgnorePatterns.last_decides
    Survey.twoFilesPlace
  obtain ⟨rules, others, longer, read, otherRead, longerRead, reordered, more, shrinks⟩ :=
    grows [starLine, idleLine] [idleLine, starLine] [lowerLine] (by simp [star, idle]) (by simp [lower]) (.swap _ _ [])
  have hidden : Project.ignores Survey.twoFiles rules Survey.twoFilesPlace upperFile = true := by
    cases read
    decide
  refine ⟨⟨rules, others, longer, read, otherRead, longerRead, (reordered upperFile).trans hidden, more upperFile hidden,
    shrinks _ _⟩, ?_⟩
  have valid : ∀ line ∈ [starLine, upperNegation, lowerLine], IgnorePatterns.line.Valid line := by
    simp only [List.forall_mem_cons]
    exact ⟨⟨_, rfl⟩, ⟨_, rfl⟩, ⟨_, rfl⟩, by simp⟩
  obtain ⟨mixed, mixedLonger, mixedRead, mixedLongerRead, same⟩ := keeps [starLine, upperNegation] [lowerLine] valid
  exact ⟨mixed, mixedLonger, mixedRead, mixedLongerRead, same upperFile lower_line_silent⟩

end LineReader

end Linkage
