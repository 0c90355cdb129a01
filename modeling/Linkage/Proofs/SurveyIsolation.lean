import Linkage.Proofs.ContentChange
import Linkage.Proofs.ProjectRoot
import Linkage.Proofs.SurveyOrder

set_option autoImplicit false

namespace Linkage

namespace Project

-- The files at the root of a project that decide how it is surveyed.
def ownFiles (project : Path) : List Path :=
  [Settings.projectFile project, project.child ignoreFileName, project.child gitIgnoreFileName]

theorem own_files_plain (project : Path) (plain : project.Plain) : ∀ file ∈ ownFiles project, file.Plain := by
  simp only [ownFiles, List.forall_mem_cons]
  refine ⟨?_, ?_, ?_, by simp⟩
  · exact Path.plain_child _ _ (Path.plain_child _ _ plain (by decide)) (by decide)
  · exact Path.plain_child _ _ plain (by decide)
  · exact Path.plain_child _ _ plain (by decide)

end Project

namespace Host

theorem lands_plain (host : Host) (p : Path) (plain : p.Plain) : host.lands p = p := by
  have same : (⟨.slash, p.parts⟩ : Path) = p := by rw [← plain.1]
  rw [lands, absolute_plain host p plain, same, Path.collapse_plain p plain]

theorem lands_parts (host : Host) (path g : Path) (plain : g.Plain) (elsewhere : host.lands path ≠ g) :
    (host.lands path).parts ≠ g.parts := by
  intro same
  apply elsewhere
  obtain ⟨root, parts⟩ := g
  cases plain.1
  change (⟨.slash, (host.lands path).parts⟩ : Path) = _
  rw [same]

end Host

namespace Survey

-- A survey goes by nothing that the file `g` holds.
def Unread (host : Host) (plan : Plan) (g : Path) : Prop :=
  host.lands (Settings.userFile host) ≠ g ∧
    ∀ place project, host.settle plan.path = .ok place → Project.root host place = .ok project →
      g ∉ Project.ownFiles project

structure SameApartFrom (key : Text) (survey changed : Survey) : Prop where
  root : changed.root = survey.root
  order : changed.entries.map SurveyEntry.key = survey.entries.map SurveyEntry.key
  keys : ∀ k, k ∈ changed.graphs.map Prod.fst ∨ k ∈ changed.failures.map Prod.fst ↔
    k ∈ survey.graphs.map Prod.fst ∨ k ∈ survey.failures.map Prod.fst
  graphs : ∀ k graph, k ≠ key → ((k, graph) ∈ changed.graphs ↔ (k, graph) ∈ survey.graphs)
  failures : ∀ k story, k ≠ key → ((k, story) ∈ changed.failures ↔ (k, story) ∈ survey.failures)

theorem own_file_elsewhere (host : Host) (g project file : Path) (projectPlain : project.Plain) (own : g ∉ Project.ownFiles project)
    (member : file ∈ Project.ownFiles project) : host.lands file ≠ g := by
  rw [host.lands_plain file (Project.own_files_plain project projectPlain file member)]
  intro same
  exact own (same ▸ member)

section Rewriting

variable (host : Host) (g : Path) (old fresh : Bytes) (plain : g.Plain)
  (regular : host.tree.find g.parts = .ok (.file old))

include plain regular

theorem of_file_rewritten (path : Path) (elsewhere : host.lands path ≠ g) :
    Settings.ofFile (host.rewritten g fresh) path = Settings.ofFile host path := by
  rw [Settings.ofFile, Settings.ofFile, host.is_file_rewritten g old fresh plain.2 regular path,
    host.read_rewritten g old fresh plain.2 regular path (host.lands_parts path g plain elsewhere)]

theorem patterns_rewritten (path : Path) (elsewhere : host.lands path ≠ g) :
    Project.patternsOf (host.rewritten g fresh) path = Project.patternsOf host path := by
  rw [Project.patternsOf, Project.patternsOf, host.is_file_rewritten g old fresh plain.2 regular path,
    host.read_rewritten g old fresh plain.2 regular path (host.lands_parts path g plain elsewhere)]

theorem first_marked_rewritten (paths : List Path) :
    Project.firstMarked (host.rewritten g fresh) paths = Project.firstMarked host paths := by
  induction paths with
  | nil => rfl
  | cons path above ih =>
      rw [Project.firstMarked, Project.firstMarked, host.is_directory_rewritten g old fresh plain.2 regular, ih]

theorem directory_of_rewritten (path : Path) :
    Project.directoryOf (host.rewritten g fresh) path = Project.directoryOf host path := by
  simp only [Project.directoryOf, host.is_file_rewritten g old fresh plain.2 regular]
  rfl

theorem root_rewritten (path : Path) : Project.root (host.rewritten g fresh) path = Project.root host path := by
  simp only [Project.root, Project.find, directory_of_rewritten host g old fresh plain regular,
    first_marked_rewritten host g old fresh plain regular]

theorem overlay_rewritten (path : Path) (base : Members) (elsewhere : host.lands path ≠ g) :
    Settings.overlay (host.rewritten g fresh) path base = Settings.overlay host path base := by
  rw [Settings.overlay, Settings.overlay, of_file_rewritten host g old fresh plain regular path elsewhere]

theorem load_rewritten (project : Path) (projectPlain : project.Plain)
    (user : host.lands (Settings.userFile host) ≠ g) (own : g ∉ Project.ownFiles project) :
    Settings.load (host.rewritten g fresh) (some project) = Settings.load host (some project) := by
  have users : Settings.overlay (host.rewritten g fresh) (Settings.userFile (host.rewritten g fresh))
      Settings.standardMembers = Settings.overlay host (Settings.userFile host) Settings.standardMembers :=
    overlay_rewritten host g old fresh plain regular (Settings.userFile host) _ user
  rw [Settings.load, Settings.load, users]
  cases Settings.overlay host (Settings.userFile host) Settings.standardMembers with
  | error failure => rfl
  | ok merged =>
      rw [Failure.ok_bind, Failure.ok_bind]
      cases settled : host.settle project with
      | error failure =>
          have otherSettled : (host.rewritten g fresh).settle project = .error failure := settled
          simp only [settled, otherSettled, Failure.error_bind]
      | ok place =>
          have otherSettled : (host.rewritten g fresh).settle project = .ok place := settled
          have same := host.settle_of_plain project place projectPlain settled
          have elsewhere := own_file_elsewhere host g project (Settings.projectFile project) projectPlain
            own (by simp [Project.ownFiles])
          simp only [settled, otherSettled, Failure.ok_bind, same,
            overlay_rewritten host g old fresh plain regular (Settings.projectFile project) merged elsewhere]

theorem ignore_rules_rewritten (project : Path) (settings : Settings) (projectPlain : project.Plain)
    (own : g ∉ Project.ownFiles project) :
    Project.ignoreRules (host.rewritten g fresh) project settings = Project.ignoreRules host project settings := by
  have entries : Project.ignoreEntries (host.rewritten g fresh) project settings =
      Project.ignoreEntries host project settings := by
    rw [Project.ignoreEntries, Project.ignoreEntries]
    cases settled : host.settle project with
    | error failure =>
        have otherSettled : (host.rewritten g fresh).settle project = .error failure := settled
        simp only [otherSettled, Failure.error_bind]
    | ok place =>
        have otherSettled : (host.rewritten g fresh).settle project = .ok place := settled
        have same := host.settle_of_plain project place projectPlain settled
        have patterns (name : Text) (member : project.child name ∈ Project.ownFiles project) :=
          patterns_rewritten host g old fresh plain regular (project.child name)
            (own_file_elsewhere host g project _ projectPlain own member)
        simp only [otherSettled, Failure.ok_bind, same,
          patterns Project.ignoreFileName (by simp [Project.ownFiles]),
          patterns Project.gitIgnoreFileName (by simp [Project.ownFiles])]
  rw [Project.ignoreRules, Project.ignoreRules, entries]
  rfl

theorem brief_rewritten (sound : host.Sound) (plan : Plan) (place : Path) (settled : host.settle plan.path = .ok place)
    (unread : Unread host plan g) : brief (host.rewritten g fresh) plan place = brief host plan place := by
  rw [brief, brief, root_rewritten host g old fresh plain regular place]
  cases rooted : Project.root host place with
  | error failure => rfl
  | ok project =>
      have projectPlain := Project.root_plain host sound place project rooted
      have own := unread.2 place project settled rooted
      have read : settingsFor (host.rewritten g fresh) plan project = settingsFor host plan project := by
        rw [settingsFor, settingsFor, load_rewritten host g old fresh plain regular project projectPlain unread.1 own]
      simp only [Failure.ok_bind, read,
        fun settings => ignore_rules_rewritten host g old fresh plain regular project settings projectPlain own]

theorem collect_rewritten (path project : Path) (rules : IgnoreRules) (extensions : Json) :
    collect (host.rewritten g fresh) path project rules extensions = collect host path project rules extensions := by
  have asked := host.regular_rewritten g old fresh plain.2 regular
  rw [collect, collect]
  cases settled : host.settle path with
  | error failure =>
      have otherSettled : (host.rewritten g fresh).settle path = .error failure := settled
      simp only [otherSettled, Failure.error_bind]
  | ok place =>
      have otherSettled : (host.rewritten g fresh).settle path = .ok place := settled
      rw [otherSettled, Failure.ok_bind, Failure.ok_bind]
      cases suffixes extensions with
      | error failure => rfl
      | ok wanted =>
          rw [Failure.ok_bind, Failure.ok_bind]
          rcases host.look_rewritten g old fresh plain.2 regular place with same | ⟨here, there, looked, otherLooked, alike⟩
          · simp only [same, asked]
            rfl
          · rw [looked, otherLooked, Failure.ok_bind, Failure.ok_bind]
            cases here with
            | file content =>
                obtain ⟨other, form, _⟩ := FileTree.alike_file _ _ content there alike
                rw [form]
                rfl
            | directory entries =>
                obtain ⟨others, form⟩ := FileTree.alike_directory _ _ entries there alike
                rw [form] at alike ⊢
                simp only [FileTree.alike_within _ _ _ _ place alike, asked]
                rfl

theorem entry_for_rewritten (resolver : ResolverSettings) (root file : Path) (filePlain : file.Plain)
    (different : file ≠ g) :
    entryFor (host.rewritten g fresh) resolver root file = entryFor host resolver root file := by
  have elsewhere : host.lands file ≠ g := by
    rw [host.lands_plain file filePlain]
    exact different
  have sourced := host.read_rewritten g old fresh plain.2 regular file (host.lands_parts file g plain elsewhere)
  simp only [entryFor, ModuleFile.trace, host.disk_rewritten g old fresh plain.2 regular, sourced]
  rfl

end Rewriting

theorem collect_plain (host : Host) (sound : host.Sound) (path project : Path) (rules : IgnoreRules) (extensions : Json)
    (files : List Path) (collected : collect host path project rules extensions = .ok files) :
    ∀ file ∈ files, file.Plain := by
  obtain ⟨place, settled, rest⟩ := Failure.bind_ok _ _ _ collected
  obtain ⟨wanted, _, rest⟩ := Failure.bind_ok _ _ _ rest
  obtain ⟨looked, present, last⟩ := Failure.bind_ok _ _ _ rest
  have placePlain := host.settle_plain sound path place settled
  cases looked with
  | none =>
      cases last
      simp
  | some entry =>
      have named := (host.place_named sound path place entry settled present).1
      cases entry with
      | file content =>
          have taken : (if wants host wanted rules project place then [place] else []) = files := Except.ok.inj last
          intro file member
          rw [← taken] at member
          split at member
          · rw [List.mem_singleton.mp member]
            exact placePlain
          · cases member
      | directory entries =>
          obtain ⟨found, asked, last⟩ := Failure.bind_ok _ _ _ last
          cases last
          intro file member
          have listed := host.regular_subset _ _ asked (List.mem_filter.mp (List.mem_mergeSort.mp member)).1
          obtain ⟨rest, end_, _, form, chain⟩ := (FileTree.mem_within_iff place file _).mp listed
          have names := FileTree.leads_named _ end_ rest named chain
          rw [form]
          exact ⟨placePlain.1, List.forall_mem_append.mpr ⟨placePlain.2, fun part inside => (names part inside).2⟩⟩

theorem mem_views_iff (survey : Survey) (k : Text) :
    k ∈ survey.graphs.map Prod.fst ∨ k ∈ survey.failures.map Prod.fst ↔ k ∈ survey.entries.map SurveyEntry.key := by
  constructor
  · intro shown
    rcases shown with good | bad
    · exact (keys_sublist SurveyEntry.graph? graph_keyed survey.entries).subset good
    · exact (keys_sublist SurveyEntry.failure? failure_keyed survey.entries).subset bad
  · intro listed
    obtain ⟨entry, member, same⟩ := List.mem_map.mp listed
    cases outcome : entry.outcome with
    | ok graph =>
        refine Or.inl (List.mem_map.mpr ⟨(entry.key, graph), List.mem_filterMap.mpr ⟨entry, member, ?_⟩, same⟩)
        simp only [SurveyEntry.graph?, outcome]
    | error failure =>
        refine Or.inr (List.mem_map.mpr ⟨(entry.key, SurveyEntry.told failure.describe),
          List.mem_filterMap.mpr ⟨entry, member, ?_⟩, same⟩)
        simp only [SurveyEntry.failure?, outcome]

theorem same_apart_from (host other : Host) (resolver : ResolverSettings) (root g : Path) (files : List Path)
    (same : ∀ file ∈ files, file ≠ g → entryFor other resolver root file = entryFor host resolver root file) :
    SameApartFrom (keyOf root g) ⟨root, files.map (entryFor host resolver root)⟩
      ⟨root, files.map (entryFor other resolver root)⟩ := by
  have order : (files.map (entryFor other resolver root)).map SurveyEntry.key =
      (files.map (entryFor host resolver root)).map SurveyEntry.key := by
    simp only [List.map_map, Function.comp_def, entryFor]
  have outcomes (file : Path) (member : file ∈ files) (different : keyOf root file ≠ keyOf root g) :
      loaded other resolver file = loaded host resolver file := by
    rw [loaded, loaded, ← outcome_entryFor other resolver root file, ← outcome_entryFor host resolver root file,
      same file member fun equal => different (by rw [equal])]
  refine ⟨rfl, order, ?_, ?_, ?_⟩
  · intro k
    rw [mem_views_iff, mem_views_iff, order]
  · intro k graph different
    rw [mem_graphs_iff, mem_graphs_iff]
    constructor
    · rintro ⟨file, member, named, done⟩
      exact ⟨file, member, named, (outcomes file member (named ▸ different)).symm.trans done⟩
    · rintro ⟨file, member, named, done⟩
      exact ⟨file, member, named, (outcomes file member (named ▸ different)).trans done⟩
  · intro k story different
    rw [mem_failures_iff, mem_failures_iff]
    constructor
    · rintro ⟨file, member, named, failure, failed, text⟩
      exact ⟨file, member, named, failure, (outcomes file member (named ▸ different)).symm.trans failed, text⟩
    · rintro ⟨file, member, named, failure, failed, text⟩
      exact ⟨file, member, named, failure, (outcomes file member (named ▸ different)).trans failed, text⟩

theorem survey_isolation (host : Host) (sound : host.Sound) (g : Path) (old fresh : Bytes) (plain : g.Plain)
    (regular : host.tree.find g.parts = .ok (.file old)) (schedule other : Pool.Schedule) (plan : Plan)
    (unread : Unread host plan g) (through : SeenThrough host schedule plan)
    (otherThrough : SeenThrough (host.rewritten g fresh) other plan) :
    (∃ failure, run host schedule plan = .error failure ∧ run (host.rewritten g fresh) other plan = .error failure) ∨
      ∃ survey changed, run host schedule plan = .ok survey ∧ run (host.rewritten g fresh) other plan = .ok changed ∧
        SameApartFrom (keyOf survey.root g) survey changed := by
  rw [run_in_turn host schedule plan through, run_in_turn _ other plan otherThrough, inTurn, inTurn]
  cases settled : host.settle plan.path with
  | error failure =>
      have otherSettled : (host.rewritten g fresh).settle plan.path = .error failure := settled
      exact Or.inl ⟨failure, rfl, by rw [otherSettled, Failure.error_bind]⟩
  | ok place =>
      have otherSettled : (host.rewritten g fresh).settle plan.path = .ok place := settled
      rw [otherSettled, Failure.ok_bind, Failure.ok_bind,
        brief_rewritten host g old fresh plain regular sound plan place settled unread]
      cases brief host plan place with
      | error failure => exact Or.inl ⟨failure, rfl, rfl⟩
      | ok b =>
          rw [Failure.ok_bind, Failure.ok_bind, collect_rewritten host g old fresh plain regular]
          cases collected : collect host place b.project b.rules b.extensions with
          | error failure => exact Or.inl ⟨failure, rfl, rfl⟩
          | ok files =>
              rw [Failure.ok_bind, Failure.ok_bind, host.is_directory_rewritten g old fresh plain.2 regular]
              cases host.isDirectory place with
              | error failure => exact Or.inl ⟨failure, rfl, rfl⟩
              | ok isDirectory =>
                  refine Or.inr ⟨_, _, rfl, rfl, same_apart_from host _ b.resolver _ g files ?_⟩
                  intro file member different
                  exact entry_for_rewritten host g old fresh plain regular b.resolver _ file
                    (collect_plain host sound place b.project b.rules b.extensions files collected file member) different

def brokenFile : Path := twoFilesPlace.child (Text.ofString "b.ts")

def brokenSource : Bytes := [105, 109, 112, 111, 114, 116, 32, 34, 46, 47, 120, 34]

theorem broken_file_unread : Unread twoFiles twoFilesPlan brokenFile := by
  refine ⟨by decide, ?_⟩
  intro place project settled rooted
  have samePlace : twoFilesPlace = place := Except.ok.inj settled
  have own : Project.root twoFiles twoFilesPlace = .ok twoFilesPlace := rfl
  rw [← samePlace] at rooted
  rw [← Except.ok.inj (own.symm.trans rooted)]
  decide

theorem survey_isolation_broken :
    twoFiles.tree.find brokenFile.parts = .ok (.file []) ∧ Unread twoFiles twoFilesPlan brokenFile ∧
      ∃ survey changed, run twoFiles crossed twoFilesPlan = .ok survey ∧
        run (twoFiles.rewritten brokenFile brokenSource) Pool.oneByOne twoFilesPlan = .ok changed ∧
        SameApartFrom (Text.ofString "b.ts") survey changed := by
  obtain ⟨first, done, root⟩ : ∃ survey, inTurn twoFiles twoFilesPlan = .ok survey ∧ survey.root = twoFilesPlace :=
    ⟨_, rfl, rfl⟩
  have ordered := (run_in_turn twoFiles crossed twoFilesPlan crossed_seen_through).trans done
  refine ⟨rfl, broken_file_unread, ?_⟩
  rcases survey_isolation twoFiles two_files_sound brokenFile [] brokenSource ⟨rfl, by decide⟩ rfl crossed Pool.oneByOne
    twoFilesPlan broken_file_unread crossed_seen_through (seen_through_one_by_one _ _) with
    ⟨failure, failed, _⟩ | ⟨survey, changed, surveyed, again, apart⟩
  · rw [ordered] at failed
    cases failed
  · have same : first = survey := Except.ok.inj (ordered.symm.trans surveyed)
    have key : keyOf survey.root brokenFile = Text.ofString "b.ts" := by
      rw [← same, root]
      rfl
    exact ⟨survey, changed, surveyed, again, key ▸ apart⟩

end Survey

end Linkage
