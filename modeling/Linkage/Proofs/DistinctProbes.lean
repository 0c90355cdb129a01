import Linkage.Proofs.EdgeSoundness
import Linkage.Proofs.LexicalCandidates
import Linkage.Proofs.StatementFailure
import Mathlib.Data.List.Nodup

set_option autoImplicit false

namespace Linkage

namespace Path

-- What stands behind the last slash of a path's text: the last component, nothing after a bare
-- root, and for the empty path the dot that it is written as.
def stem (p : Path) : Text := p.parts.getLast?.getD (if p.isAbsolute then [] else dot)

def beside (p : Path) (tail : Text) : Path := p.parent.child (p.stem ++ tail)

theorem text_stem (p : Path) : p.text = p.root.text ++ Text.join [slash] (p.parts.dropLast ++ [p.stem]) := by
  rcases List.eq_nil_or_concat p.parts with bare | ⟨front, last, split⟩
  · obtain ⟨root, parts⟩ := p
    cases bare
    cases root <;> rfl
  · rw [List.concat_eq_append] at split
    rw [text_of_parts p (by simp [split]), stem, split]
    simp

theorem stem_child (p : Path) (part : Text) : (p.child part).stem = part := by
  simp [stem, child]

theorem stem_bare (p : Path) (bare : p.parts = []) : p.stem = [] ∨ p.stem = dot := by
  rw [stem, bare, List.getLast?_nil, Option.getD_none]
  split
  · exact Or.inl rfl
  · exact Or.inr rfl

theorem stem_free (p : Path) (clean : ∀ part ∈ p.parts, IsPart part) : slash ∉ p.stem := by
  by_cases bare : p.parts = []
  · rcases stem_bare p bare with form | form <;> rw [form] <;> decide
  · rw [stem, List.getLast?_eq_some_getLast bare, Option.getD_some]
    exact (clean _ (List.getLast_mem bare)).2.2

-- Two characters are enough for the longer name to be neither empty nor a dot, which a path drops.
theorem of_text_beside (p : Path) (tail : Text) (clean : ∀ part ∈ p.parts, IsPart part) (free : slash ∉ tail)
    (long : 2 ≤ tail.length) : ofText (p.text ++ tail) = p.beside tail := by
  rw [text_stem, List.append_assoc, Text.join_last_tail]
  apply of_text_written
  intro part member
  rcases List.mem_append.mp member with early | final
  · exact clean part (List.dropLast_subset p.parts early)
  · have whole : part = p.stem ++ tail := by simpa using final
    have longer : 2 ≤ part.length := by
      rw [whole, List.length_append]
      omega
    refine ⟨?_, ?_, ?_⟩
    · rintro rfl
      simp at longer
    · rintro rfl
      simp [dot] at longer
    · rw [whole]
      simp [stem_free p clean, free]

theorem of_text_child (p : Path) (part : Text) (clean : ∀ part ∈ p.parts, IsPart part) (own : IsPart part) :
    ofText (joinText p.text part) = p.child part := by
  have relative : part.head? ≠ some slash := fun first => own.2.2 (List.mem_of_head? first)
  have alone : ofText part = ⟨.none, [part]⟩ := of_text_written .none [part] (List.forall_mem_singleton.mpr own)
  have whole := of_text_text p clean
  have root : rootOf p.text = p.root := congrArg Path.root whole
  rw [of_text_join p.text part own.1 relative, root, whole, alone]
  rfl

theorem child_injective (p : Path) (one two : Text) (same : p.child one = p.child two) : one = two := by
  have stems := congrArg stem same
  rwa [stem_child, stem_child] at stems

theorem child_ne (p : Path) (part : Text) : p.child part ≠ p := by
  intro same
  have sizes := congrArg (fun q => q.parts.length) same
  simp [child] at sizes

theorem beside_injective (p : Path) (one two : Text) (same : p.beside one = p.beside two) : one = two :=
  List.append_cancel_left (child_injective p.parent _ _ same)

theorem beside_ne (p : Path) (tail : Text) (given : tail ≠ []) : p.beside tail ≠ p := by
  intro same
  have stems := congrArg stem same
  rw [beside, stem_child] at stems
  exact given (List.append_right_eq_self.mp stems)

-- A place beside a path is one below it only where the path has no component at all.
theorem beside_child (p : Path) (tail part : Text) (same : p.beside tail = p.child part) :
    p.parts = [] ∧ p.stem ++ tail = part := by
  have parts : p.parts.dropLast ++ [p.stem ++ tail] = p.parts ++ [part] := congrArg Path.parts same
  obtain ⟨front, last⟩ := List.append_inj' parts rfl
  refine ⟨?_, by simpa using last⟩
  have size := congrArg List.length front
  rw [List.length_dropLast] at size
  exact List.eq_nil_of_length_eq_zero (by omega)

end Path

namespace Resolver

def IsExtension (extension : Text) : Prop :=
  extension.head? = some (.scalar '.') ∧ 2 ≤ extension.length ∧ Path.slash ∉ extension

instance (extension : Text) : Decidable (IsExtension extension) :=
  inferInstanceAs (Decidable (_ ∧ _ ∧ _))

def place (specifier directory : Text) : Path := (Path.ofText (Path.joinText directory specifier)).collapse

def indexOf (p : Path) (extension : Text) : Path := p.child (Text.ofString "index" ++ extension)

theorem place_clean (specifier directory : Text) : ∀ part ∈ (place specifier directory).parts, Path.IsPart part :=
  Path.collapse_clean _ (Path.of_text_parts _)

theorem candidates_places (extensions : List Text) (specifier directory : Text)
    (fit : ∀ extension ∈ extensions, IsExtension extension) :
    (candidates extensions specifier directory).map Path.ofText =
      place specifier directory :: extensions.map (place specifier directory).beside ++
        extensions.map (indexOf (place specifier directory)) := by
  have clean := place_clean specifier directory
  have read (t : Text) : Path.ofText (Path.ofText t).text = Path.ofText t := Path.of_text_text _ (Path.of_text_parts t)
  have named : base specifier directory = (place specifier directory).text := rfl
  simp only [candidates, named, List.map_map, List.map_append, List.map_cons, Function.comp_def, read]
  congr 1
  · congr 1
    · exact Path.of_text_text _ clean
    · apply List.map_congr_left
      intro extension listed
      obtain ⟨_, long, free⟩ := fit extension listed
      exact Path.of_text_beside _ extension clean free long
  · apply List.map_congr_left
    intro extension listed
    exact Path.of_text_child _ _ clean (index_name extension (fit extension listed).2.2).1

theorem index_of_injective (p : Path) (one two : Text) (same : indexOf p one = indexOf p two) : one = two :=
  List.append_cancel_left (Path.child_injective p _ _ same)

-- Where a longer name stands below the path, it begins with a dot.
theorem beside_ne_index (p : Path) (extension other : Text) (fit : IsExtension extension) :
    p.beside extension ≠ indexOf p other := by
  intro same
  obtain ⟨bare, name⟩ := Path.beside_child p extension _ same
  have first : (p.stem ++ extension).head? = some (.scalar '.') := by
    rcases Path.stem_bare p bare with form | form
    · rw [form]
      exact fit.1
    · rw [form]
      rfl
  rw [name] at first
  have index : (Text.ofString "index" ++ other).head? = some (.scalar 'i') := rfl
  rw [index] at first
  exact absurd first (by decide)

theorem places_nodup (p : Path) (extensions : List Text) (distinct : extensions.Nodup)
    (fit : ∀ extension ∈ extensions, IsExtension extension) :
    (p :: extensions.map p.beside ++ extensions.map (indexOf p)).Nodup := by
  have longer : (extensions.map p.beside).Nodup := distinct.map (Path.beside_injective p)
  have index : (extensions.map (indexOf p)).Nodup := distinct.map (index_of_injective p)
  have apart : ∀ one ∈ extensions.map p.beside, ∀ two ∈ extensions.map (indexOf p), one ≠ two := by
    intro one beside two below
    obtain ⟨extension, listed, rfl⟩ := List.mem_map.mp beside
    obtain ⟨other, _, rfl⟩ := List.mem_map.mp below
    exact beside_ne_index p extension other (fit extension listed)
  have itself : p ∉ extensions.map p.beside ++ extensions.map (indexOf p) := by
    intro member
    rcases List.mem_append.mp member with beside | below
    · obtain ⟨extension, listed, same⟩ := List.mem_map.mp beside
      have long := (fit extension listed).2.1
      exact Path.beside_ne p extension (List.ne_nil_of_length_pos (by omega)) same
    · obtain ⟨extension, _, same⟩ := List.mem_map.mp below
      exact Path.child_ne p _ same
  exact List.nodup_cons.mpr ⟨itself, List.nodup_append.mpr ⟨longer, index, apart⟩⟩

theorem candidates_nodup (extensions : List Text) (specifier directory : Text) (distinct : extensions.Nodup)
    (fit : ∀ extension ∈ extensions, IsExtension extension) : (candidates extensions specifier directory).Nodup := by
  apply List.Nodup.of_map Path.ofText
  rw [candidates_places extensions specifier directory fit]
  exact places_nodup _ extensions distinct fit

-- A lone dot as an extension would be dropped behind a root, and the root be probed twice.
example : candidates [Path.dot] (Text.ofString "..") (Text.ofString "/a") =
    ["/", "/", "/index."].map Text.ofString := rfl

section Search

variable (disk : Disk) (paths : List Text)

theorem first_file_probes : (firstFile disk paths).probes <+: paths := by
  have ended := first_file_end disk paths
  generalize firstFile disk paths = search at ended ⊢
  cases ended with
  | found before after path split refused hit => exact ⟨after, by simp [split]⟩
  | broken before after path failure split refused fault => exact ⟨after, by simp [split]⟩
  | exhausted refused => exact List.prefix_rfl

theorem first_file_none (missing : (firstFile disk paths).outcome = .ok none) : (firstFile disk paths).probes = paths := by
  have ended := first_file_end disk paths
  generalize firstFile disk paths = search at ended missing ⊢
  cases ended with
  | found before after path split refused hit => cases missing
  | broken before after path failure split refused fault => cases missing
  | exhausted refused => rfl

theorem first_file_refused (refused : ∀ path ∈ paths, disk path = .ok false) :
    firstFile disk paths = ⟨paths, .ok none⟩ := by
  induction paths with
  | nil => rfl
  | cons path paths ih =>
      obtain ⟨first, later⟩ := List.forall_mem_cons.mp refused
      simp only [firstFile, first, ih later]

end Search

section Probes

variable (r : Resolver) (disk : Disk) (raw directory : Text) (importer : Option Text)
  (relative : isRelative (splitTransport r.transports raw).2 = true)

include relative

theorem resolve_probes : (r.resolve disk raw directory importer).probes =
    (firstFile disk (candidates r.extensions (splitTransport r.transports raw).2 directory)).probes := by
  rw [resolve_relative r disk raw directory importer relative]
  cases ended : (firstFile disk (candidates r.extensions (splitTransport r.transports raw).2 directory)).outcome with
  | error failure => rw [Traced.bind_error _ _ _ ended]
  | ok found =>
      rw [Traced.bind_ok _ _ _ ended]
      cases found with
      | none => exact List.append_nil _
      | some path => exact List.append_nil _

theorem resolve_refused
    (refused : ∀ path ∈ candidates r.extensions (splitTransport r.transports raw).2 directory, disk path = .ok false) :
    r.resolve disk raw directory importer =
      ⟨candidates r.extensions (splitTransport r.transports raw).2 directory, .error (.unresolved raw importer)⟩ := by
  rw [resolve_relative r disk raw directory importer relative, first_file_refused disk _ refused]
  simp [Traced.bind, Traced.fail]

-- The disk could answer a probe with the very failure that the resolver reports at the end.
theorem resolve_unresolved (silent : ∀ path, disk path ≠ .error (.unresolved raw importer))
    (failed : (r.resolve disk raw directory importer).outcome = .error (.unresolved raw importer)) :
    (r.resolve disk raw directory importer).probes =
      candidates r.extensions (splitTransport r.transports raw).2 directory := by
  rw [resolve_probes r disk raw directory importer relative]
  rw [resolve_relative r disk raw directory importer relative] at failed
  rcases Traced.bind_outcome_error _ _ _ failed with ⟨broken, _⟩ | ⟨found, searched, last⟩
  · obtain ⟨path, _, fault⟩ := first_file_fails disk _ _ broken
    exact absurd fault (silent path)
  · cases found with
    | none => exact first_file_none disk _ searched
    | some path => cases last

end Probes

theorem probes_distinct (r : Resolver) (specifier directory : Text) (relative : isRelative specifier = true)
    (distinct : r.extensions.Nodup) (fit : ∀ extension ∈ r.extensions, IsExtension extension) :
    (candidates r.extensions specifier directory).length = 1 + 2 * r.extensions.length ∧
    (candidates r.extensions specifier directory).Nodup ∧
    ∀ (disk : Disk) (raw : Text) (importer tag : Option Text), splitTransport r.transports raw = (tag, specifier) →
      (r.resolve disk raw directory importer).probes.Nodup ∧
      ((∀ path ∈ candidates r.extensions specifier directory, disk path = .ok false) →
        (r.resolve disk raw directory importer).outcome = .error (.unresolved raw importer) ∧
        (r.resolve disk raw directory importer).probes.length = 1 + 2 * r.extensions.length) ∧
      ((∀ path, disk path ≠ .error (.unresolved raw importer)) →
        (r.resolve disk raw directory importer).outcome = .error (.unresolved raw importer) →
        (r.resolve disk raw directory importer).probes.length = 1 + 2 * r.extensions.length) := by
  have once := candidates_nodup r.extensions specifier directory distinct fit
  have size := candidates_length r.extensions specifier directory
  refine ⟨size, once, ?_⟩
  intro disk raw importer tag split
  have rest : (splitTransport r.transports raw).2 = specifier := by rw [split]
  subst rest
  refine ⟨?_, ?_, ?_⟩
  · rw [resolve_probes r disk raw directory importer relative]
    exact once.sublist (first_file_probes disk _).sublist
  · intro refused
    rw [resolve_refused r disk raw directory importer relative refused]
    exact ⟨rfl, size⟩
  · intro silent failed
    rw [resolve_unresolved r disk raw directory importer relative silent failed]
    exact size

-- Two extensions of which one is as short as can be and reads like the way up.
def cornered : Resolver := ⟨[Text.ofString "copy:"], [".js", ".."].map Text.ofString⟩

theorem probes_distinct_corners :
    base (Text.ofString "..") (Text.ofString "/a") = Text.ofString "/" ∧
    (candidates cornered.extensions (Text.ofString "..") (Text.ofString "/a")).Nodup ∧
    base (Text.ofString ".") (Text.ofString "//a/..") = Text.ofString "//" ∧
    (candidates cornered.extensions (Text.ofString ".") (Text.ofString "//a/..")).Nodup ∧
    base (Text.ofString ".") [] = Text.ofString "." ∧
    (candidates cornered.extensions (Text.ofString ".") []).Nodup ∧
    base (Text.ofString "..") [] = Text.ofString ".." ∧
    (candidates cornered.extensions (Text.ofString "..") []).Nodup ∧
    (cornered.resolve (Disk.ofLists [] []) (Text.ofString "copy:..") [] none).probes =
      ["..", "...js", "....", "../index.js", "../index.."].map Text.ofString ∧
    (cornered.resolve (Disk.ofLists [] []) (Text.ofString "copy:..") [] none).outcome =
      .error (.unresolved (Text.ofString "copy:..") none) ∧
    (cornered.resolve (Disk.ofLists [] []) (Text.ofString "copy:..") [] none).probes.Nodup ∧
    (cornered.resolve (Disk.ofLists [] []) (Text.ofString "copy:..") [] none).probes.length = 5 := by
  have distinct : cornered.extensions.Nodup := by decide
  have fit : ∀ extension ∈ cornered.extensions, IsExtension extension := by decide
  have root := probes_distinct cornered (Text.ofString "..") (Text.ofString "/a") rfl distinct fit
  have twoSlashes := probes_distinct cornered (Text.ofString ".") (Text.ofString "//a/..") rfl distinct fit
  have here := probes_distinct cornered (Text.ofString ".") [] rfl distinct fit
  obtain ⟨_, above, runs⟩ := probes_distinct cornered (Text.ofString "..") [] rfl distinct fit
  obtain ⟨once, unfound, counted⟩ :=
    runs (Disk.ofLists [] []) (Text.ofString "copy:..") none (some (Text.ofString "copy:")) rfl
  have empty (path : Text) : Disk.ofLists [] [] path = .ok false := by simp [Disk.ofLists]
  have failed := (unfound fun path _ => empty path).1
  have size := counted (fun path => by simp [empty path]) failed
  exact ⟨rfl, root.2.1, rfl, twoSlashes.2.1, rfl, here.2.1, rfl, above, rfl, failed, once, size⟩

end Resolver

end Linkage
