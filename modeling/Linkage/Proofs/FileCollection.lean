import Linkage.Proofs.FileSurvey
import Linkage.Proofs.TypedSettings

set_option autoImplicit false

namespace Linkage

namespace Survey

def RegularBelow (place : Path) (entries : FileTree) (file : Path) : Prop :=
  ∃ rest content, file = ⟨place.root, place.parts ++ rest⟩ ∧
    FileTree.Leads (.directory entries) rest (.file content)

def Handled (extensions : List Text) (file : Path) : Prop :=
  ∃ extension ∈ extensions, Text.lower file.suffix = Text.lower extension

theorem wants_iff (host : Host) (extensions : List Text) (rules : IgnoreRules) (project file : Path) :
    wants host (extensions.map Text.lower) rules project file = true ↔
      Handled extensions file ∧ Project.ignores host rules project file = false := by
  rw [wants, Bool.and_eq_true, List.contains_iff_mem, List.mem_map, Bool.not_eq_true', Handled]
  simp only [eq_comm]

theorem gathered_before (root : Path) (files : List Path) (names : ∀ part ∈ root.parts, Path.IsName part)
    (gathered : Gathered root files) : files.Pairwise fun a b => Text.Before a.text b.text := by
  refine (gathered.ordered.and gathered.nodup).imp_of_mem ?_
  intro a b memberA memberB related
  obtain ⟨less, different⟩ := related
  refine ⟨less, ?_⟩
  intro same
  exact different (below_text root a b names (gathered.below a memberA) (gathered.below b memberB) same)

-- A path that no disk takes ends the collecting of a directory; without one, exactly the wanted files are
-- collected, below a directory as alone.
theorem collect_exact (host : Host) (sound : host.Sound) (spelled : FileTree.SpelledIn host.tree)
    (path place project : Path) (entries : FileTree) (rules : IgnoreRules) (extensions : List Text)
    (finds : host.Finds path place (.directory entries)) :
    (∀ p, FileTree.blocked? place (.directory entries) = some p →
      collect host path project rules (.texts extensions) = .error (.disk .nameTooLong p.text)) ∧
    (FileTree.blocked? place (.directory entries) = none →
      ∃ files, collect host path project rules (.texts extensions) = .ok files ∧ files.Nodup ∧
        (files.Pairwise fun a b => Text.Before a.text b.text) ∧
        (∀ file, file ∈ files ↔ RegularBelow place entries file ∧ Handled extensions file ∧
          Project.ignores host rules project file = false) ∧
        ∀ filePath file content rest, host.Finds filePath file (.file content) →
          file = ⟨place.root, place.parts ++ rest⟩ →
            RegularBelow place entries file ∧
              collect host filePath project rules (.texts extensions) = .ok (if file ∈ files then [file] else [])) := by
  have read := suffixes_texts extensions
  refine ⟨collect_blocked host path place project _ rules _ sound finds spelled _ read, ?_⟩
  intro free
  have held := host.finds_held sound path place _ finds
  obtain ⟨_, names, _⟩ := host.place_named sound path place _ finds.settled finds.present
  have gathered := wanted_gathered host path place project _ rules (extensions.map Text.lower) sound finds
  have collected : ∀ file, file ∈ wantedFiles host place project (.directory entries) rules (extensions.map Text.lower) ↔
      RegularBelow place entries file ∧ Handled extensions file ∧ Project.ignores host rules project file = false := by
    intro file
    rw [mem_wanted_files, FileTree.mem_files_iff, wants_iff]
    rfl
  refine ⟨_, collect_wanted host path place project _ rules _ sound finds spelled _ read free, gathered.nodup,
    gathered_before place _ names gathered, collected, ?_⟩
  intro filePath file content rest fileFinds beneath
  have fileHeld := host.finds_held sound filePath file _ fileFinds
  have listed := listed_beneath host place file _ content rest held fileHeld beneath
  refine ⟨(FileTree.mem_files_iff place file _).mp listed, ?_⟩
  -- Alone as below the directory, a file that is listed is taken if it is wanted.
  have taken := mem_wanted_files host place project (.directory entries) rules (extensions.map Text.lower) file
  rw [and_iff_right listed] at taken
  rw [collect_file host filePath file project rules _ content fileFinds _ read]
  by_cases wanted : wants host (extensions.map Text.lower) rules project file = true
  · rw [if_pos wanted, if_pos (taken.mpr wanted)]
  · rw [if_neg wanted, if_neg (mt taken.mp wanted)]

def noneHidden : IgnoreRules := fun _ => false

theorem crowded_uncollected :
    Host.crowded.Sound ∧ FileTree.SpelledIn Host.crowded.tree ∧
      Host.crowded.Finds Host.crowdedPlace Host.crowdedPlace (.directory Host.crowdedEntries) ∧
      RegularBelow Host.crowdedPlace Host.crowdedEntries Host.crowdedFile ∧
      Handled [Text.ofString ".js"] Host.crowdedFile ∧
      Project.ignores Host.crowded noneHidden Host.crowdedPlace Host.crowdedFile = false ∧
      ∃ p, collect Host.crowded Host.crowdedPlace Host.crowdedPlace noneHidden (.texts [Text.ofString ".js"]) =
        .error (.disk .nameTooLong p) := by
  obtain ⟨p, met⟩ := Host.crowded_blocked
  have finds := crowded_together.finds
  refine ⟨Host.crowded_sound, Host.crowded_spelled, finds,
    ⟨[Text.ofString "f.js"], [], rfl, .step _ _ _ _ [] (List.mem_cons_of_mem _ List.mem_cons_self) (.here _)⟩,
    ⟨Text.ofString ".js", by decide, by decide⟩, by decide, p.text, ?_⟩
  exact collect_blocked Host.crowded Host.crowdedPlace Host.crowdedPlace Host.crowdedPlace _ noneHidden _
    Host.crowded_sound finds Host.crowded_spelled _ (suffixes_texts _) p met

-- A file, a directory whose name the file's begins with, a hidden directory, a directory that is
-- called like a file, a name that is all suffix, and a file that a pattern hides.
def shelves : Host :=
  .bundled [(Text.ofString "p", .directory
      [(Text.ofString "a", .directory
         [(Text.ofString "b.ts", .file []), (Text.ofString ".h", .directory [(Text.ofString "z.TS", .file [])])]),
       (Text.ofString "a.ts", .file []),
       (Text.ofString "d.js", .directory []),
       (Text.ofString ".js", .file []),
       (Text.ofString "old.js", .file [])])]
    ⟨.slash, [Text.ofString "p"]⟩ ⟨.slash, [Text.ofString "h"]⟩

def shelvesPlace : Path := ⟨.slash, [Text.ofString "p"]⟩

theorem shelves_sound : shelves.Sound := ⟨rfl, by decide⟩

def shelvesExtensions : List Text := [Text.ofString ".Ts", Text.ofString ".JS"]

def hiddenFile : Path := ⟨.slash, [Text.ofString "p", Text.ofString "a", Text.ofString ".h", Text.ofString "z.TS"]⟩

def oldFile : Path := ⟨.slash, [Text.ofString "p", Text.ofString "old.js"]⟩

theorem shelves_spelled : FileTree.SpelledIn shelves.tree := by decide

def oldHidden : IgnoreRules := fun path => path == Text.ofString "old.js"

theorem collect_exact_shelves :
    ∃ files, collect shelves ⟨.none, []⟩ shelvesPlace oldHidden (.texts shelvesExtensions) = .ok files ∧
      (files.Pairwise fun a b => Text.Before a.text b.text) ∧ hiddenFile ∈ files ∧ oldFile ∉ files ∧
      collect shelves ⟨.none, [Text.ofString "a", Text.ofString ".h", Text.ofString "z.TS"]⟩ shelvesPlace oldHidden
        (.texts shelvesExtensions) = .ok [hiddenFile] ∧
      collect shelves oldFile shelvesPlace oldHidden (.texts shelvesExtensions) = .ok [] := by
  have shown : Project.ignores shelves oldHidden shelvesPlace hiddenFile = false := by decide
  have hidden : Project.ignores shelves oldHidden shelvesPlace oldFile = true := by decide
  obtain ⟨entries, finds, free⟩ : ∃ entries, shelves.Finds ⟨.none, []⟩ shelvesPlace (.directory entries) ∧
      FileTree.blocked? shelvesPlace (.directory entries) = none := ⟨_, ⟨rfl, rfl⟩, by decide⟩
  obtain ⟨_, unhindered⟩ := collect_exact shelves shelves_sound shelves_spelled ⟨.none, []⟩ shelvesPlace
    shelvesPlace entries oldHidden shelvesExtensions finds
  obtain ⟨files, collected, _, ordered, exactly, alone⟩ := unhindered free
  obtain ⟨regular, ofHidden⟩ := alone ⟨.none, [Text.ofString "a", Text.ofString ".h", Text.ofString "z.TS"]⟩ hiddenFile []
    [Text.ofString "a", Text.ofString ".h", Text.ofString "z.TS"] ⟨rfl, rfl⟩ rfl
  obtain ⟨_, ofOld⟩ := alone oldFile oldFile [] [Text.ofString "old.js"] ⟨rfl, rfl⟩ rfl
  have taken : hiddenFile ∈ files :=
    (exactly hiddenFile).mpr ⟨regular, ⟨Text.ofString ".Ts", by decide, by decide⟩, shown⟩
  have left : oldFile ∉ files := by
    intro member
    have seen := ((exactly oldFile).mp member).2.2
    rw [hidden] at seen
    contradiction
  rw [if_pos taken] at ofHidden
  rw [if_neg left] at ofOld
  exact ⟨files, collected, ordered, taken, left, ofHidden, ofOld⟩

end Survey

end Linkage
