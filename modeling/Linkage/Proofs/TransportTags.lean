import Linkage.Proofs.Resolution

set_option autoImplicit false

namespace Linkage

namespace Resolver

theorem first_tag_tail (tag : Text) (tags : List Text) (raw : Text) (choice : Option Text) (missing : ¬ tag <+: raw)
    (first : FirstTag (tag :: tags) raw choice) : FirstTag tags raw choice := by
  cases choice with
  | none => exact (List.forall_mem_cons.mp first).2
  | some chosen =>
      obtain ⟨before, after, split, lead, earlier⟩ := first
      cases before with
      | nil =>
          cases split
          exact absurd lead missing
      | cons other before =>
          cases split
          exact ⟨before, after, rfl, lead, (List.forall_mem_cons.mp earlier).2⟩

theorem first_tag_head (tag : Text) (tags : List Text) (raw : Text) (choice : Option Text) (lead : tag <+: raw)
    (first : FirstTag (tag :: tags) raw choice) : choice = some tag := by
  cases choice with
  | none => exact absurd lead (first tag List.mem_cons_self)
  | some chosen =>
      obtain ⟨before, after, split, _, earlier⟩ := first
      cases before with
      | nil =>
          cases split
          rfl
      | cons other before =>
          cases split
          exact absurd lead (earlier tag List.mem_cons_self)

theorem split_transport_choice (tags : List Text) (raw : Text) (choice : Option Text)
    (first : FirstTag tags raw choice) : (splitTransport tags raw).1 = choice := by
  induction tags with
  | nil =>
      cases choice with
      | none => rfl
      | some chosen =>
          obtain ⟨before, after, split, _⟩ := first
          simp at split
  | cons tag tags ih =>
      cases stripped : Text.strip? tag raw with
      | none =>
          simp only [splitTransport, stripped]
          exact ih (first_tag_tail tag tags raw choice (strip_none tag raw stripped) first)
      | some rest =>
          simp only [splitTransport, stripped]
          exact (first_tag_head tag tags raw choice ⟨rest, (Text.strip?_eq_some_iff.mp stripped).symm⟩ first).symm

theorem split_transport_tagged (tags : List Text) (choice : Option Text) (rest : Text)
    (first : FirstTag tags (choice.getD [] ++ rest) choice) :
    splitTransport tags (choice.getD [] ++ rest) = (choice, rest) := by
  have tag := split_transport_choice tags _ choice first
  have whole := split_transport_append tags (choice.getD [] ++ rest)
  rw [tag] at whole
  exact Prod.ext tag (List.append_cancel_left whole)

section Tagged

variable (r : Resolver) (disk : Disk) (directory : Text) (importer : Option Text)

theorem resolve_tagged_package (choice : Option Text) (rest : Text)
    (first : FirstTag r.transports (choice.getD [] ++ rest) choice) (package : isRelative rest = false) :
    r.resolve disk (choice.getD [] ++ rest) directory importer = ⟨[], .ok ⟨rest, true, choice⟩⟩ := by
  have split := split_transport_tagged r.transports choice rest first
  rw [resolve_package r disk _ directory importer (by rw [split]; exact package), split]

-- Tag and whole text come in only after the search, which sees neither.
theorem resolve_tagged_relative (choice : Option Text) (rest : Text)
    (first : FirstTag r.transports (choice.getD [] ++ rest) choice) (relative : isRelative rest = true) :
    r.resolve disk (choice.getD [] ++ rest) directory importer =
      (firstFile disk (candidates r.extensions rest directory)).bind fun
        | some path => .pure ⟨path, false, choice⟩
        | none => .fail (.unresolved (choice.getD [] ++ rest) importer) := by
  have split := split_transport_tagged r.transports choice rest first
  have whole := resolve_relative r disk (choice.getD [] ++ rest) directory importer (by rw [split]; exact relative)
  rw [split] at whole
  exact whole

theorem transport_inert (tag rest : Text) (first : FirstTag r.transports (tag ++ rest) (some tag))
    (bare : FirstTag r.transports rest none) :
    (r.resolve disk (tag ++ rest) directory importer).probes = (r.resolve disk rest directory importer).probes ∧
    ((∃ target isPackage,
        (r.resolve disk (tag ++ rest) directory importer).outcome = .ok ⟨target, isPackage, some tag⟩ ∧
        (r.resolve disk rest directory importer).outcome = .ok ⟨target, isPackage, none⟩) ∨
      (∃ path failure, path ∈ (r.resolve disk rest directory importer).probes ∧ disk path = .error failure ∧
        (r.resolve disk (tag ++ rest) directory importer).outcome = .error failure ∧
        (r.resolve disk rest directory importer).outcome = .error failure) ∨
      (r.resolve disk (tag ++ rest) directory importer).outcome = .error (.unresolved (tag ++ rest) importer) ∧
        (r.resolve disk rest directory importer).outcome = .error (.unresolved rest importer)) := by
  cases relative : isRelative rest with
  | false =>
      rw [show r.resolve disk (tag ++ rest) directory importer = ⟨[], .ok ⟨rest, true, some tag⟩⟩ from
          resolve_tagged_package r disk directory importer (some tag) rest first relative,
        show r.resolve disk rest directory importer = ⟨[], .ok ⟨rest, true, none⟩⟩ from
          resolve_tagged_package r disk directory importer none rest bare relative]
      exact ⟨rfl, Or.inl ⟨rest, true, rfl, rfl⟩⟩
  | true =>
      have tagged := resolve_tagged_relative r disk directory importer (some tag) rest first relative
      have plain := resolve_tagged_relative r disk directory importer none rest bare relative
      simp only [Option.getD_some, Option.getD_none, List.nil_append] at tagged plain
      rw [tagged, plain]
      have ended := first_file_end disk (candidates r.extensions rest directory)
      generalize firstFile disk (candidates r.extensions rest directory) = search at ended ⊢
      cases ended with
      | found before after path split refused hit => exact ⟨rfl, Or.inl ⟨path, false, rfl, rfl⟩⟩
      | broken before after path failure split refused fault =>
          exact ⟨rfl, Or.inr (Or.inl ⟨path, failure, by simp [Traced.bind], fault, rfl, rfl⟩)⟩
      | exhausted refused => exact ⟨rfl, Or.inr (Or.inr ⟨rfl, rfl⟩)⟩

end Tagged

-- Tags of which one is the beginning of another, and one begins like a relative specifier.
def nestedTags : Resolver := ⟨["co:", "co", ".x"].map Text.ofString, [Text.ofString ".js"]⟩

theorem transport_inert_nested :
    (nestedTags.resolve (Disk.ofLists [Text.ofString "/d/a.js"] []) (Text.ofString "co" ++ Text.ofString "./a")
        (Text.ofString "/d") none).probes = [Text.ofString "/d/a", Text.ofString "/d/a.js"] ∧
    (nestedTags.resolve (Disk.ofLists [Text.ofString "/d/a.js"] []) (Text.ofString "./a")
        (Text.ofString "/d") none).probes = [Text.ofString "/d/a", Text.ofString "/d/a.js"] ∧
    (nestedTags.resolve (Disk.ofLists [Text.ofString "/d/a.js"] []) (Text.ofString "co" ++ Text.ofString "./a")
        (Text.ofString "/d") none).outcome = .ok ⟨Text.ofString "/d/a.js", false, some (Text.ofString "co")⟩ := by
  have first : FirstTag nestedTags.transports (Text.ofString "co" ++ Text.ofString "./a") (some (Text.ofString "co")) :=
    ⟨[Text.ofString "co:"], [Text.ofString ".x"], rfl, by decide, by decide⟩
  have bare : FirstTag nestedTags.transports (Text.ofString "./a") none := by
    change ∀ tag ∈ nestedTags.transports, _
    decide
  obtain ⟨same, ending⟩ := transport_inert nestedTags (Disk.ofLists [Text.ofString "/d/a.js"] []) (Text.ofString "/d") none
    (Text.ofString "co") (Text.ofString "./a") first bare
  have plain : nestedTags.resolve (Disk.ofLists [Text.ofString "/d/a.js"] []) (Text.ofString "./a")
      (Text.ofString "/d") none =
        ⟨[Text.ofString "/d/a", Text.ofString "/d/a.js"], .ok ⟨Text.ofString "/d/a.js", false, none⟩⟩ := rfl
  rw [plain] at same ending
  refine ⟨same, by rw [plain], ?_⟩
  rcases ending with ⟨target, isPackage, tagged, own⟩ | ⟨_, _, _, _, _, own⟩ | ⟨_, own⟩
  · cases own
    exact tagged
  · cases own
  · cases own

end Resolver

end Linkage
