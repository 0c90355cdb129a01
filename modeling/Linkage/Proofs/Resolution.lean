import Linkage.Resolver

set_option autoImplicit false

namespace Linkage

namespace Resolver

-- The choice of a transport tag: the first listed tag that the specifier begins with, or none
-- when it begins with no listed tag at all.
def FirstTag (tags : List Text) (raw : Text) : Option Text → Prop
  | none => ∀ tag ∈ tags, ¬ tag <+: raw
  | some tag => ∃ before after, tags = before ++ tag :: after ∧ tag <+: raw ∧
      ∀ earlier ∈ before, ¬ earlier <+: raw

-- How a search along paths ends: every path before the last probed one is no file, and the last
-- probed one is a file or a failure, unless all paths are used up.
inductive SearchEnd (disk : Disk) (paths : List Text) : Traced (Option Text) → Prop where
  | found (before after : List Text) (path : Text) (split : paths = before ++ path :: after)
      (refused : ∀ earlier ∈ before, disk earlier = .ok false) (hit : disk path = .ok true) :
      SearchEnd disk paths ⟨before ++ [path], .ok (some path)⟩
  | broken (before after : List Text) (path : Text) (failure : Failure) (split : paths = before ++ path :: after)
      (refused : ∀ earlier ∈ before, disk earlier = .ok false) (fault : disk path = .error failure) :
      SearchEnd disk paths ⟨before ++ [path], .error failure⟩
  | exhausted (refused : ∀ path ∈ paths, disk path = .ok false) : SearchEnd disk paths ⟨paths, .ok none⟩

theorem strip_none (tag raw : Text) (missing : Text.strip? tag raw = none) : ¬ tag <+: raw := by
  rintro ⟨rest, whole⟩
  have stripped : Text.strip? tag raw = some rest := Text.strip?_eq_some_iff.mpr whole.symm
  rw [missing] at stripped
  contradiction

theorem first_tag_later (tag : Text) (tags : List Text) (raw : Text) (choice : Option Text)
    (missing : ¬ tag <+: raw) (later : FirstTag tags raw choice) : FirstTag (tag :: tags) raw choice := by
  cases choice with
  | none => exact List.forall_mem_cons.mpr ⟨missing, later⟩
  | some chosen =>
      obtain ⟨before, after, split, lead, earlier⟩ := later
      exact ⟨tag :: before, after, by rw [split]; rfl, lead, List.forall_mem_cons.mpr ⟨missing, earlier⟩⟩

theorem first_tag_none_iff (tags : List Text) (raw : Text) (choice : Option Text) (first : FirstTag tags raw choice) :
    choice = none ↔ ∀ tag ∈ tags, ¬ tag <+: raw := by
  cases choice with
  | none => exact ⟨fun _ => first, fun _ => rfl⟩
  | some chosen =>
      obtain ⟨before, after, split, lead, _⟩ := first
      constructor
      · intro absent
        contradiction
      · intro missing
        exact absurd lead (missing chosen (by simp [split]))

theorem split_transport_first (tags : List Text) (raw : Text) : FirstTag tags raw (splitTransport tags raw).1 := by
  induction tags with
  | nil => simp [splitTransport, FirstTag]
  | cons tag tags ih =>
      cases stripped : Text.strip? tag raw with
      | none =>
          simp only [splitTransport, stripped]
          exact first_tag_later tag tags raw _ (strip_none tag raw stripped) ih
      | some rest =>
          simp only [splitTransport, stripped]
          exact ⟨[], tags, rfl, ⟨rest, (Text.strip?_eq_some_iff.mp stripped).symm⟩, by simp⟩

theorem split_transport_append (tags : List Text) (raw : Text) :
    (splitTransport tags raw).1.getD [] ++ (splitTransport tags raw).2 = raw := by
  induction tags with
  | nil => rfl
  | cons tag tags ih =>
      cases stripped : Text.strip? tag raw with
      | none => simpa only [splitTransport, stripped] using ih
      | some rest =>
          simp only [splitTransport, stripped, Option.getD_some]
          exact (Text.strip?_eq_some_iff.mp stripped).symm

theorem search_end_later (disk : Disk) (path : Text) (paths : List Text) (rest : Traced (Option Text))
    (refused : disk path = .ok false) (ended : SearchEnd disk paths rest) :
    SearchEnd disk (path :: paths) ⟨path :: rest.probes, rest.outcome⟩ := by
  cases ended with
  | found before after last split earlier hit =>
      exact .found (path :: before) after last (by rw [split]; rfl) (List.forall_mem_cons.mpr ⟨refused, earlier⟩) hit
  | broken before after last failure split earlier fault =>
      exact .broken (path :: before) after last failure (by rw [split]; rfl)
        (List.forall_mem_cons.mpr ⟨refused, earlier⟩) fault
  | exhausted all => exact .exhausted (List.forall_mem_cons.mpr ⟨refused, all⟩)

theorem first_file_end (disk : Disk) (paths : List Text) : SearchEnd disk paths (firstFile disk paths) := by
  induction paths with
  | nil => exact .exhausted (by simp)
  | cons path paths ih =>
      cases answer : disk path with
      | error failure =>
          simp only [firstFile, answer]
          exact .broken [] paths path failure rfl (by simp) answer
      | ok present =>
          cases present with
          | true =>
              simp only [firstFile, answer]
              exact .found [] paths path rfl (by simp) answer
          | false =>
              simp only [firstFile, answer]
              exact search_end_later disk path paths _ answer ih

theorem first_file_hit (disk : Disk) (paths : List Text) (path : Text)
    (found : (firstFile disk paths).outcome = .ok (some path)) : path ∈ paths ∧ disk path = .ok true := by
  have ended := first_file_end disk paths
  generalize firstFile disk paths = search at ended found
  cases ended with
  | found before after last split refused hit =>
      cases found
      exact ⟨by simp [split], hit⟩
  | broken before after last failure split refused fault => cases found
  | exhausted refused => cases found

theorem candidates_length (extensions : List Text) (specifier directory : Text) :
    (candidates extensions specifier directory).length = 1 + 2 * extensions.length := by
  simp only [candidates, List.length_map, List.length_append, List.length_cons]
  omega

theorem resolve_package (r : Resolver) (disk : Disk) (raw directory : Text) (importer : Option Text)
    (package : isRelative (splitTransport r.transports raw).2 = false) :
    r.resolve disk raw directory importer =
      ⟨[], .ok ⟨(splitTransport r.transports raw).2, true, (splitTransport r.transports raw).1⟩⟩ := by
  simp only [resolve, package, Bool.false_eq_true, if_false]
  rfl

theorem resolve_relative (r : Resolver) (disk : Disk) (raw directory : Text) (importer : Option Text)
    (relative : isRelative (splitTransport r.transports raw).2 = true) :
    r.resolve disk raw directory importer =
      (firstFile disk (candidates r.extensions (splitTransport r.transports raw).2 directory)).bind fun
        | some path => .pure ⟨path, false, (splitTransport r.transports raw).1⟩
        | none => .fail (.unresolved raw importer) := by
  simp only [resolve, relative, if_true, locate]
  rfl

theorem resolution_law (r : Resolver) (disk : Disk) (raw directory : Text) (importer : Option Text) :
    ∃ tag rest, splitTransport r.transports raw = (tag, rest) ∧
      FirstTag r.transports raw tag ∧ (tag = none ↔ ∀ listed ∈ r.transports, ¬ listed <+: raw) ∧
      tag.getD [] ++ rest = raw ∧
      (isRelative rest = false → r.resolve disk raw directory importer = ⟨[], .ok ⟨rest, true, tag⟩⟩) ∧
      (isRelative rest = true →
        (∃ before path after, candidates r.extensions rest directory = before ++ path :: after ∧
          (∀ earlier ∈ before, disk earlier = .ok false) ∧ disk path = .ok true ∧
          r.resolve disk raw directory importer = ⟨before ++ [path], .ok ⟨path, false, tag⟩⟩) ∨
        (∃ before path after failure, candidates r.extensions rest directory = before ++ path :: after ∧
          (∀ earlier ∈ before, disk earlier = .ok false) ∧ disk path = .error failure ∧
          r.resolve disk raw directory importer = ⟨before ++ [path], .error failure⟩) ∨
        ((candidates r.extensions rest directory).length = 1 + 2 * r.extensions.length ∧
          (∀ path ∈ candidates r.extensions rest directory, disk path = .ok false) ∧
          r.resolve disk raw directory importer =
            ⟨candidates r.extensions rest directory, .error (.unresolved raw importer)⟩)) := by
  have first := split_transport_first r.transports raw
  refine ⟨_, _, rfl, first, first_tag_none_iff _ _ _ first, split_transport_append r.transports raw,
    resolve_package r disk raw directory importer, ?_⟩
  intro relative
  rw [resolve_relative r disk raw directory importer relative]
  have ended := first_file_end disk (candidates r.extensions (splitTransport r.transports raw).2 directory)
  generalize firstFile disk (candidates r.extensions (splitTransport r.transports raw).2 directory) = search at ended ⊢
  cases ended with
  | found before after path split refused hit =>
      refine Or.inl ⟨before, path, after, split, refused, hit, ?_⟩
      simp [Traced.bind, Traced.pure]
  | broken before after path failure split refused fault =>
      exact Or.inr (Or.inl ⟨before, path, after, failure, split, refused, fault, rfl⟩)
  | exhausted refused =>
      refine Or.inr (Or.inr ⟨candidates_length _ _ _, refused, ?_⟩)
      simp [Traced.bind, Traced.fail]

end Resolver

end Linkage
