import Linkage.Proofs.ProjectRoot
import Linkage.Proofs.SurveyOrder

set_option autoImplicit false

namespace Linkage

namespace FileTree

theorem mem_files_in (here file : Path) (name : Text) (entries : FileTree) (next : Entry)
    (present : entry? name entries = some next) (member : file ∈ files (here.child name) next) :
    file ∈ filesIn here entries := by
  induction entries with
  | nil => cases present
  | cons first rest ih =>
      obtain ⟨other, entry⟩ := first
      rw [ entry?] at present
      rw [filesIn]
      by_cases hit : other = name
      · rw [if_pos hit] at present
        cases present
        rw [hit]
        exact List.mem_append_left _ member
      · rw [if_neg hit] at present
        exact List.mem_append_right _ (ih present)

theorem follow_files (rest : List Text) (here : Path) (entry : Entry) (content : Bytes)
    (names : ∀ part ∈ rest, part ≠ Path.dotDot) (reached : follow entry [] rest = .ok (.file content)) :
    (⟨here.root, here.parts ++ rest⟩ : Path) ∈ files here entry := by
  induction rest generalizing here entry with
  | nil =>
      cases reached
      simp [files]
  | cons name rest ih =>
      obtain ⟨named, later⟩ := List.forall_mem_cons.mp names
      cases entry with
      | file other => cases reached
      | directory entries =>
          rw [follow_name name rest entries [] named] at reached
          split at reached
          · cases reached
          · split at reached
            · cases reached
            · rename_i next present
              rw [follow_above rest next _ [] later] at reached
              have inside := ih (here.child name) next later reached
              rw [Path.child, List.append_assoc, List.singleton_append] at inside
              rw [files]
              exact mem_files_in here _ name entries next present inside

end FileTree

namespace Project

theorem root_of_find (host : Host) (place project : Path) (found : find host place = .ok (some project)) :
    root host place = .ok project := by
  rw [root, found]
  rfl

end Project

namespace Survey

def Reports (survey : Survey) (key : Text) : Prop :=
  key ∈ survey.graphs.map Prod.fst ∨ key ∈ survey.failures.map Prod.fst

structure Accounts (host : Host) (b : Brief) (wanted : List Text) (file : Path) (survey : Survey) (key : Text) :
    Prop where
  reported : survey.Reports key ↔ wants host wanted b.rules b.project file = true
  graph : ∀ graph, (key, graph) ∈ survey.graphs ↔
    wants host wanted b.rules b.project file = true ∧ loaded host b.resolver file = .ok graph
  story : ∀ story, (key, story) ∈ survey.failures ↔ wants host wanted b.rules b.project file = true ∧
    ∃ failure, loaded host b.resolver file = .error failure ∧ story = failure.describe

section Reports

variable (host : Host) (resolver : ResolverSettings) (root : Path) (files : List Path) (gathered : Gathered root files)
  (file : Path) (below : Below root file)

include gathered below

theorem only_by_key (holds : Path → Prop) :
    (∃ other ∈ files, keyOf root file = keyOf root other ∧ holds other) ↔ file ∈ files ∧ holds file := by
  constructor
  · rintro ⟨other, member, named, held⟩
    have same : other = file := by
      rw [← below_found root other (gathered.below other member), ← named, below_found root file below]
    exact ⟨same ▸ member, same ▸ held⟩
  · rintro ⟨member, held⟩
    exact ⟨file, member, rfl, held⟩

theorem reported_graph_iff (graph : Graph) :
    (keyOf root file, graph) ∈ graphs ⟨root, files.map (entryFor host resolver root)⟩ ↔
      file ∈ files ∧ loaded host resolver file = .ok graph := by
  rw [mem_graphs_iff, only_by_key root files gathered file below]

theorem reported_failure_iff (story : Text) :
    (keyOf root file, story) ∈ failures ⟨root, files.map (entryFor host resolver root)⟩ ↔
      file ∈ files ∧ ∃ failure, loaded host resolver file = .error failure ∧ story = failure.describe := by
  rw [mem_failures_iff, only_by_key root files gathered file below]

theorem reports_iff : Reports ⟨root, files.map (entryFor host resolver root)⟩ (keyOf root file) ↔ file ∈ files := by
  rw [Reports, graph_key_iff, failure_key_iff, only_by_key root files gathered file below,
    only_by_key root files gathered file below, ← and_or_left, and_iff_left_iff_imp]
  intro _
  cases outcome : loaded host resolver file with
  | ok graph => exact Or.inl ⟨graph, rfl⟩
  | error failure => exact Or.inr ⟨failure, rfl⟩

end Reports

section Run

variable (host : Host) (sound : host.Sound) (spelled : FileTree.SpelledIn host.tree) (schedule : Pool.Schedule)
  (plan : Plan) (place : Path) (entry : Entry) (b : Brief) (wanted : List Text)
  (through : SeenThrough host schedule plan) (finds : host.Finds plan.path place entry)
  (ready : Ready host plan place entry b wanted)

include sound spelled through finds ready

theorem run_wanted :
    run host schedule plan =
      .ok ⟨rootFor place entry, (wantedFiles host place b.project entry b.rules wanted).map
        (entryFor host b.resolver (rootFor place entry))⟩ := by
  have collected := collect_ready host sound spelled plan place entry finds b wanted ready
  rw [run_collected host schedule plan place entry b _ finds ready.briefed collected,
    load_all_through schedule b.jobs _ _ (through place b _ finds.settled ready.briefed collected)]

theorem run_accounts :
    ∃ survey, run host schedule plan = .ok survey ∧
      ∀ file ∈ FileTree.files place entry, Accounts host b wanted file survey (keyOf (rootFor place entry) file) := by
  refine ⟨_, run_wanted host sound spelled schedule plan place entry b wanted through finds ready, ?_⟩
  intro file listed
  obtain ⟨named, names, inside⟩ := host.place_named sound plan.path place entry finds.settled finds.present
  have below := files_below_root place entry named names inside file listed
  have gathered := wanted_gathered host plan.path place b.project entry b.rules wanted sound finds
  have member : file ∈ wantedFiles host place b.project entry b.rules wanted ↔
      wants host wanted b.rules b.project file = true := by
    rw [mem_wanted_files, and_iff_right listed]
  refine ⟨?_, ?_, ?_⟩
  · rw [reports_iff host b.resolver _ _ gathered file below, member]
  · intro graph
    rw [reported_graph_iff host b.resolver _ _ gathered file below, member]
  · intro story
    rw [reported_failure_iff host b.resolver _ _ gathered file below, member]

end Run

theorem key_of_own (file : Path) (inside : file.parts ≠ []) : keyOf file.parent file = file.name := by
  obtain ⟨front, last, split⟩ := (List.eq_nil_or_concat file.parts).resolve_left inside
  rw [List.concat_eq_append] at split
  have own : file.parent = ⟨file.root, front⟩ := by rw [Path.parent, split, List.dropLast_concat]
  have whole : file = ⟨file.parent.root, file.parent.parts ++ [last]⟩ := by rw [own, ← split]
  have named : file.name = last := by rw [Path.name, split, List.getLast?_concat, Option.getD_some]
  calc keyOf file.parent file = keyOf file.parent ⟨file.parent.root, file.parent.parts ++ [last]⟩ := by rw [← whole]
    _ = Path.text ⟨.none, [last]⟩ := key_of_below file.parent [last]
    _ = file.name := by rw [named]; rfl

-- What a survey goes by depends on where it is only through the project.
theorem brief_of_root (host : Host) (plan : Plan) (path other place otherPlace : Path)
    (same : Project.root host otherPlace = Project.root host place) :
    brief host { plan with path := other } otherPlace = brief host { plan with path := path } place := by
  rw [brief, brief, same]
  rfl

theorem brief_project (host : Host) (plan : Plan) (place project : Path) (b : Brief)
    (rooted : Project.root host place = .ok project) (briefed : brief host plan place = .ok b) :
    b.project = project := by
  rw [brief, rooted, Failure.ok_bind] at briefed
  obtain ⟨settings, _, rest⟩ := Failure.bind_ok _ _ _ briefed
  obtain ⟨walker, _, rest⟩ := Failure.bind_ok _ _ _ rest
  obtain ⟨jobs, _, rest⟩ := Failure.bind_ok _ _ _ rest
  obtain ⟨resolver, _, rest⟩ := Failure.bind_ok _ _ _ rest
  obtain ⟨rules, _, rest⟩ := Failure.bind_ok _ _ _ rest
  obtain ⟨extensions, _, rest⟩ := Failure.bind_ok _ _ _ rest
  cases rest
  rfl

theorem seen_through_file (host : Host) (sound : host.Sound) (schedule : Pool.Schedule) (plan : Plan) (file : Path)
    (content : Bytes) (finds : host.Finds plan.path file (.file content)) : SeenThrough host schedule plan := by
  intro place b files placed _ collected _ several
  have same : file = place := Except.ok.inj (finds.settled.symm.trans placed)
  have again := host.finds_place sound plan.path file _ finds
  rw [← same] at collected
  rcases collected_alone host file file b.project b.rules content again b.extensions files collected with empty | own
  · rw [empty] at several
    contradiction
  · rw [own] at several
    contradiction

theorem listed_beneath (host : Host) (place file : Path) (entry : Entry) (content : Bytes) (rest : List Text)
    (held : host.Held place entry) (fileHeld : host.Held file (.file content))
    (beneath : file = ⟨place.root, place.parts ++ rest⟩) : file ∈ FileTree.files place entry := by
  have names : ∀ part ∈ place.parts ++ rest, part ≠ Path.dotDot := by
    have plain := fileHeld.plain.2
    rwa [beneath] at plain
  have reached : host.tree.find (place.parts ++ rest) = .ok (.file content) := by
    have found := fileHeld.found
    rwa [beneath] at found
  rw [FileTree.find_append host.tree place.parts rest names, held.found] at reached
  rw [beneath]
  exact FileTree.follow_files rest place entry content (fun part member => names part (List.mem_append_right _ member))
    reached

structure Together (host : Host) (path filePath place file project : Path) (entries : FileTree) (content : Bytes)
    (rest : List Text) : Prop where
  finds : host.Finds path place (.directory entries)
  fileFinds : host.Finds filePath file (.file content)
  beneath : file = ⟨place.root, place.parts ++ rest⟩
  rooted : Project.find host place = .ok (some project)
  fileRooted : Project.find host file = .ok (some project)

section Together

variable (host : Host) (plan : Plan) (path filePath place file project : Path) (entries : FileTree) (content : Bytes)
  (rest : List Text) (together : Together host path filePath place file project entries content rest)

include together

theorem together_briefed :
    brief host { plan with path := filePath } file = brief host { plan with path := path } place :=
  brief_of_root host plan path filePath place file ((Project.root_of_find host file project together.fileRooted).trans
    (Project.root_of_find host place project together.rooted).symm)

theorem together_ready (b : Brief) (wanted : List Text) (briefed : brief host { plan with path := path } place = .ok b)
    (read : suffixes b.extensions = .ok wanted) :
    Ready host { plan with path := filePath } file (.file content) b wanted :=
  ⟨(together_briefed host plan path filePath place file project entries content rest together).trans briefed, read, rfl⟩

theorem together_alone (sound : host.Sound) (spelled : FileTree.SpelledIn host.tree) (schedule : Pool.Schedule)
    (b : Brief) (wanted : List Text) (briefed : brief host { plan with path := path } place = .ok b)
    (read : suffixes b.extensions = .ok wanted) :
    ∃ alone, run host schedule { plan with path := filePath } = .ok alone ∧
      Accounts host b wanted file alone file.name := by
  have fileFinds := together.fileFinds
  obtain ⟨alone, surveyed, told⟩ := run_accounts host sound spelled schedule { plan with path := filePath } file _ b
    wanted (seen_through_file host sound schedule { plan with path := filePath } file content fileFinds) fileFinds
    (together_ready host plan path filePath place file project entries content rest together b wanted briefed read)
  have ofAlone := told file (by simp [FileTree.files])
  obtain ⟨_, _, inside⟩ := host.place_named sound filePath file _ fileFinds.settled fileFinds.present
  have key : keyOf (rootFor file (.file content)) file = file.name := key_of_own file (inside rfl)
  exact ⟨alone, surveyed, key ▸ ofAlone⟩

end Together

-- What is met on the way to a file's survey ends both surveys. Apart from that only a path below the
-- directory that no disk takes keeps them from saying the same.
theorem file_survey_agrees (host : Host) (sound : host.Sound) (spelled : FileTree.SpelledIn host.tree)
    (schedule other : Pool.Schedule) (plan : Plan) (path filePath place file project : Path) (entries : FileTree)
    (content : Bytes) (rest : List Text)
    (together : Together host path filePath place file project entries content rest)
    (through : SeenThrough host schedule { plan with path := path }) :
    (∀ failure, Stops host { plan with path := filePath } file (.file content) failure →
      run host schedule { plan with path := path } = .error failure ∧
        run host other { plan with path := filePath } = .error failure) ∧
    ∀ b wanted, brief host { plan with path := path } place = .ok b → suffixes b.extensions = .ok wanted →
      ∃ alone, run host other { plan with path := filePath } = .ok alone ∧
        (alone.Reports file.name ↔ wants host wanted b.rules project file = true) ∧
        (∀ p, FileTree.blocked? place (.directory entries) = some p →
          run host schedule { plan with path := path } = .error (.disk .nameTooLong p.text)) ∧
        (FileTree.blocked? place (.directory entries) = none →
          ∃ whole, run host schedule { plan with path := path } = .ok whole ∧
            (alone.Reports file.name ↔ whole.Reports (Path.text ⟨.none, rest⟩)) ∧
            (∀ graph, (file.name, graph) ∈ alone.graphs ↔ (Path.text ⟨.none, rest⟩, graph) ∈ whole.graphs) ∧
            ∀ story, (file.name, story) ∈ alone.failures ↔ (Path.text ⟨.none, rest⟩, story) ∈ whole.failures) := by
  have alike := together_briefed host plan path filePath place file project entries content rest together
  have stopped := run_stopped host sound spelled schedule { plan with path := path } place _ together.finds
  refine ⟨?_, ?_⟩
  · intro failure stops
    refine ⟨stopped failure ?_, run_stopped host sound spelled other _ file _ together.fileFinds failure stops⟩
    cases stops with
    | unbriefed _ failed => exact .unbriefed failure (alike.symm.trans failed)
    | unread b _ briefed failed => exact .unread b failure (alike.symm.trans briefed) failed
    | blocked b wanted p _ _ met => cases met
  · intro b wanted briefed read
    obtain ⟨alone, fileSurveyed, ofAlone⟩ := together_alone host plan path filePath place file project entries content
      rest together sound spelled other b wanted briefed read
    have sameProject := brief_project host _ place project b (Project.root_of_find host place project together.rooted)
      briefed
    refine ⟨alone, fileSurveyed, sameProject ▸ ofAlone.reported, ?_, ?_⟩
    · intro p met
      exact stopped _ (.blocked b wanted p briefed read met)
    · intro free
      obtain ⟨whole, surveyed, told⟩ := run_accounts host sound spelled schedule { plan with path := path } place _ b
        wanted through together.finds ⟨briefed, read, free⟩
      have held := host.finds_held sound path place _ together.finds
      have fileHeld := host.finds_held sound filePath file _ together.fileFinds
      have ofWhole := told file (listed_beneath host place file _ content rest held fileHeld together.beneath)
      have key : keyOf (rootFor place (.directory entries)) file = Path.text ⟨.none, rest⟩ := by
        rw [together.beneath]
        exact key_of_below place rest
      rw [key] at ofWhole
      exact ⟨whole, surveyed, ofAlone.reported.trans ofWhole.reported.symm,
        fun graph => (ofAlone.graph graph).trans (ofWhole.graph graph).symm,
        fun story => (ofAlone.story story).trans (ofWhole.story story).symm⟩

def crowdedPlan : Plan := { path := Host.crowdedFile, settings := some (.obj []) }

theorem crowded_together :
    Together Host.crowded Host.crowdedPlace Host.crowdedFile Host.crowdedPlace Host.crowdedFile Host.crowdedPlace
      Host.crowdedEntries [] [Text.ofString "f.js"] := ⟨⟨rfl, rfl⟩, ⟨rfl, rfl⟩, rfl, rfl, rfl⟩

theorem crowded_file_alone :
    Host.crowded.Sound ∧ FileTree.SpelledIn Host.crowded.tree ∧
      Together Host.crowded Host.crowdedPlace Host.crowdedFile Host.crowdedPlace Host.crowdedFile Host.crowdedPlace
        Host.crowdedEntries [] [Text.ofString "f.js"] ∧
      (∃ alone, run Host.crowded Pool.oneByOne crowdedPlan = .ok alone ∧ alone.Reports (Text.ofString "f.js")) ∧
      ∃ p, run Host.crowded Pool.oneByOne { crowdedPlan with path := Host.crowdedPlace } = .error (.disk .nameTooLong p) := by
  obtain ⟨b, wanted, briefed, read, taken⟩ : ∃ b wanted,
      brief Host.crowded { crowdedPlan with path := Host.crowdedPlace } Host.crowdedPlace = .ok b ∧
        suffixes b.extensions = .ok wanted ∧ wants Host.crowded wanted b.rules b.project Host.crowdedFile = true :=
    ⟨_, _, rfl, rfl, rfl⟩
  obtain ⟨alone, surveyed, told⟩ := together_alone Host.crowded crowdedPlan _ _ _ _ _ _ _ _ crowded_together
    Host.crowded_sound Host.crowded_spelled Pool.oneByOne b wanted briefed read
  obtain ⟨p, met⟩ := Host.crowded_blocked
  exact ⟨Host.crowded_sound, Host.crowded_spelled, crowded_together, ⟨alone, surveyed, told.reported.mpr taken⟩, p.text,
    run_stopped Host.crowded Host.crowded_sound Host.crowded_spelled Pool.oneByOne _ Host.crowdedPlace _
      crowded_together.finds _ (.blocked b wanted p briefed read met)⟩

def nested : Host :=
  .bundled [(Text.ofString "p", .directory
      [(Text.ofString ".modgraph", .directory []),
       (Text.ofString "src", .directory [(Text.ofString "m.js", .file [])])])]
    ⟨.slash, [Text.ofString "p"]⟩ ⟨.slash, [Text.ofString "h"]⟩

def nestedRoot : Path := ⟨.slash, [Text.ofString "p"]⟩

def nestedFile : Path := ⟨.slash, [Text.ofString "p", Text.ofString "src", Text.ofString "m.js"]⟩

def nestedPlan : Plan := ⟨⟨.none, [Path.dotDot, Text.ofString "p"]⟩, some (.obj []), some 2, none⟩

def nestedFilePlan : Plan := { nestedPlan with path := ⟨.none, [Text.ofString "src", Text.ofString "m.js"]⟩ }

theorem nested_sound : nested.Sound := ⟨rfl, by decide⟩

theorem nested_spelled : FileTree.SpelledIn nested.tree := by decide

theorem nested_together :
    ∃ entries, Together nested nestedPlan.path nestedFilePlan.path nestedRoot nestedFile nestedRoot entries []
      [Text.ofString "src", Text.ofString "m.js"] ∧ FileTree.blocked? nestedRoot (.directory entries) = none :=
  ⟨_, ⟨⟨rfl, rfl⟩, ⟨rfl, rfl⟩, rfl, rfl, rfl⟩, by decide⟩

theorem file_survey_agrees_nested :
    Project.find nested nestedRoot = .ok (some nestedRoot) ∧ Project.find nested nestedFile = .ok (some nestedRoot) ∧
      ∃ whole alone, run nested Pool.oneByOne nestedPlan = .ok whole ∧
        run nested Pool.oneByOne nestedFilePlan = .ok alone ∧
        alone.Reports (Text.ofString "m.js") ∧ whole.Reports (Text.ofString "src/m.js") ∧
        ∀ graph, (Text.ofString "m.js", graph) ∈ alone.graphs ↔ (Text.ofString "src/m.js", graph) ∈ whole.graphs := by
  obtain ⟨entries, together, free⟩ := nested_together
  obtain ⟨_, usable⟩ := file_survey_agrees nested nested_sound nested_spelled Pool.oneByOne Pool.oneByOne nestedPlan
    nestedPlan.path nestedFilePlan.path nestedRoot nestedFile nestedRoot entries [] _ together
    (seen_through_one_by_one _ _)
  obtain ⟨b, wanted, briefed, read, taken⟩ : ∃ b wanted, brief nested nestedPlan nestedRoot = .ok b ∧
      suffixes b.extensions = .ok wanted ∧ wants nested wanted b.rules nestedRoot nestedFile = true :=
    ⟨_, _, rfl, rfl, rfl⟩
  obtain ⟨alone, fileSurveyed, reported, _, unhindered⟩ := usable b wanted briefed read
  obtain ⟨whole, surveyed, alike, graphs, _⟩ := unhindered free
  have known := reported.mpr taken
  exact ⟨rfl, rfl, whole, alone, surveyed, fileSurveyed, known, alike.mp known, graphs⟩

end Survey

end Linkage
