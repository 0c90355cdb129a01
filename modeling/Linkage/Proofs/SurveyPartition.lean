import Linkage.Proofs.DeepPlaces
import Linkage.Proofs.PoolRun
import Linkage.Proofs.TextOrder
import Linkage.Survey

set_option autoImplicit false

namespace Linkage

namespace Survey

-- The directory that keys are relative to: the surveyed one, or the one of the surveyed file.
def rootFor (place : Path) (entry : Entry) : Path := if entry.isDirectory then place else place.parent

def Below (root file : Path) : Prop :=
  ∃ rest, rest ≠ [] ∧ file = ⟨root.root, root.parts ++ rest⟩ ∧ ∀ part ∈ rest, Path.IsName part

-- Files below a root, each once, in the order of their texts.
structure Gathered (root : Path) (files : List Path) : Prop where
  below : ∀ file ∈ files, Below root file
  nodup : files.Nodup
  ordered : files.Pairwise fun a b => Text.le a.text b.text = true

theorem files_below_root (place : Path) (entry : Entry) (named : FileTree.WellNamed entry)
    (names : ∀ part ∈ place.parts, Path.IsName part) (inside : entry.isDirectory = false → place.parts ≠ []) :
    ∀ file ∈ FileTree.files place entry, Below (rootFor place entry) file := by
  intro file member
  cases entry with
  | directory entries =>
      obtain ⟨name, rest, form, _, parts⟩ := FileTree.files_in_below place entries named file member
      exact ⟨name :: rest, List.cons_ne_nil name rest, form, parts⟩
  | file content =>
      have same : file = place := by simpa [FileTree.files] using member
      have split := List.dropLast_concat_getLast (inside rfl)
      refine ⟨[place.parts.getLast (inside rfl)], List.cons_ne_nil _ _, ?_, ?_⟩
      · change file = ⟨place.root, place.parts.dropLast ++ _⟩
        rw [split, same]
      · intro part last
        have own : part = place.parts.getLast (inside rfl) := by simpa using last
        rw [own]
        exact names _ (List.getLast_mem (inside rfl))

theorem below_text (root a b : Path) (names : ∀ part ∈ root.parts, Path.IsName part) (belowA : Below root a)
    (belowB : Below root b) (same : a.text = b.text) : a = b := by
  have found : ∀ file, Below root file → Path.ofText file.text = file := by
    rintro file ⟨rest, _, form, parts⟩
    apply Path.of_text_text
    intro part member
    rw [form] at member
    rcases List.mem_append.mp member with above | own
    · exact (names part above).1
    · exact (parts part own).1
  rw [← found a belowA, ← found b belowB, same]

theorem sorted_ordered (paths : List Path) : (sorted paths).Pairwise fun a b => Text.le a.text b.text = true :=
  List.pairwise_mergeSort (fun a b c => Text.le_trans a.text b.text c.text)
    (fun a b => Text.le_total a.text b.text) paths

theorem gathered_sorted (root : Path) (paths : List Path) (keep : Path → Bool) (nodup : paths.Nodup)
    (below : ∀ file ∈ paths, Below root file) : Gathered root (sorted (paths.filter keep)) := by
  refine ⟨?_, ?_, sorted_ordered _⟩
  · intro file member
    exact below file (List.mem_filter.mp (List.mem_mergeSort.mp member)).1
  · exact (List.mergeSort_perm _ _).nodup_iff.mpr (nodup.filter keep)

theorem sorted_perm (paths others : List Path) (perm : paths.Perm others)
    (distinct : ∀ a ∈ paths, ∀ b ∈ paths, a.text = b.text → a = b) : sorted paths = sorted others := by
  have same : (sorted paths).Perm (sorted others) :=
    ((List.mergeSort_perm paths _).trans perm).trans (List.mergeSort_perm others _).symm
  refine List.Perm.eq_of_pairwise ?_ (sorted_ordered paths) (sorted_ordered others) same
  intro a b memberA memberB less more
  have inside := same.mem_iff.mpr memberB
  exact distinct a (List.mem_mergeSort.mp memberA) b (List.mem_mergeSort.mp inside) (Text.le_antisymm _ _ less more)

section Wanted

variable (host : Host) (path place project : Path) (entry : Entry) (rules : IgnoreRules) (wanted : List Text)

def wantedFiles : List Path := sorted ((FileTree.files place entry).filter (wants host wanted rules project))

theorem mem_wanted_files (file : Path) : file ∈ wantedFiles host place project entry rules wanted ↔
    file ∈ FileTree.files place entry ∧ wants host wanted rules project file = true := by
  rw [wantedFiles, sorted, List.mem_mergeSort, List.mem_filter]

theorem wanted_alone (content : Bytes) :
    wantedFiles host place project (.file content) rules wanted =
      if wants host wanted rules project place = true then [place] else [] := by
  rw [wantedFiles, FileTree.files, sorted]
  cases hit : wants host wanted rules project place with
  | true => rw [List.filter_cons_of_pos hit, List.filter_nil, List.mergeSort_singleton, if_pos rfl]
  | false => rw [List.filter_cons_of_neg (by simp [hit]), List.filter_nil, List.mergeSort_nil, if_neg (by simp)]

theorem collect_unreadable (finds : host.Finds path place entry) (extensions : Json) (failure : Failure)
    (unread : suffixes extensions = .error failure) :
    collect host path project rules extensions = .error failure := by
  rw [collect, finds.settled, Failure.ok_bind, unread, Failure.error_bind]

-- A file by itself is taken without looking any further.
theorem collect_file (content : Bytes) (finds : host.Finds path place (.file content)) (extensions : Json)
    (read : suffixes extensions = .ok wanted) :
    collect host path project rules extensions =
      .ok (if wants host wanted rules project place = true then [place] else []) := by
  rw [collect, finds.settled, Failure.ok_bind, read, Failure.ok_bind, finds.present]
  rfl

theorem collected_alone (content : Bytes) (finds : host.Finds path place (.file content)) (extensions : Json)
    (files : List Path) (collected : collect host path project rules extensions = .ok files) :
    files = [] ∨ files = [place] := by
  cases read : suffixes extensions with
  | error failure =>
      rw [collect_unreadable host path place project _ rules finds extensions failure read] at collected
      cases collected
  | ok wanted =>
      rw [collect_file host path place project rules wanted content finds extensions read] at collected
      rw [← Except.ok.inj collected]
      split
      · exact Or.inr rfl
      · exact Or.inl rfl

variable (sound : host.Sound) (finds : host.Finds path place entry)

include sound finds

theorem wanted_gathered : Gathered (rootFor place entry) (wantedFiles host place project entry rules wanted) := by
  obtain ⟨named, names, inside⟩ := host.place_named sound path place entry finds.settled finds.present
  exact gathered_sorted _ _ _ (FileTree.files_nodup place entry named)
    (files_below_root place entry named names inside)

variable (spelled : FileTree.SpelledIn host.tree)

include spelled

theorem entry_spelled : FileTree.Spelled entry := by
  have held := host.finds_held sound path place entry finds
  exact FileTree.follow_spelled place.parts (.directory host.tree) entry [] spelled held.plain.2 held.found

theorem collect_wanted (extensions : Json) (read : suffixes extensions = .ok wanted)
    (free : FileTree.blocked? place entry = none) :
    collect host path project rules extensions = .ok (wantedFiles host place project entry rules wanted) := by
  cases entry with
  | file content =>
      rw [collect_file host path place project rules wanted content finds extensions read, wanted_alone]
  | directory entries =>
      have held := host.finds_held sound path place _ finds
      have inner := entry_spelled host path place _ sound finds spelled
      obtain ⟨named, names, inside⟩ := host.place_named sound path place _ finds.settled finds.present
      obtain ⟨found, asked, perm⟩ := host.regular_within place _ held named inner rfl free
      rw [collect, finds.settled, Failure.ok_bind, read, Failure.ok_bind, finds.present]
      change (do let regular ← host.regular _; return _) = _
      rw [asked, Failure.ok_bind, wantedFiles]
      refine congrArg Except.ok (sorted_perm _ _ (perm.filter _) ?_)
      intro a memberA b memberB same
      have below (file : Path) (member : file ∈ found.filter (wants host wanted rules project)) : Below place file :=
        files_below_root place _ named names inside file (perm.mem_iff.mp (List.mem_filter.mp member).1)
      exact below_text place a b names (below a memberA) (below b memberB) same

theorem collect_blocked (extensions : Json) (read : suffixes extensions = .ok wanted) (p : Path)
    (blocked : FileTree.blocked? place entry = some p) :
    collect host path project rules extensions = .error (.disk .nameTooLong p.text) := by
  cases entry with
  | file content => cases blocked
  | directory entries =>
      have held := host.finds_held sound path place _ finds
      have inner := entry_spelled host path place _ sound finds spelled
      have named := (host.place_named sound path place _ finds.settled finds.present).1
      rw [collect, finds.settled, Failure.ok_bind, read, Failure.ok_bind, finds.present]
      change (do let regular ← host.regular _; return _) = _
      rw [host.regular_blocked place _ held named inner p blocked, Failure.error_bind]

theorem collected_listed (extensions : Json) (files : List Path)
    (collected : collect host path project rules extensions = .ok files) :
    ∀ file ∈ files, file ∈ FileTree.files place entry := by
  cases read : suffixes extensions with
  | error failure =>
      cases (collect_unreadable host path place project entry rules finds extensions failure read).symm.trans collected
  | ok wanted =>
      cases met : FileTree.blocked? place entry with
      | some p =>
          cases (collect_blocked host path place project entry rules wanted sound finds spelled extensions read p
            met).symm.trans collected
      | none =>
          have whole := collect_wanted host path place project entry rules wanted sound finds spelled extensions read met
          rw [← Except.ok.inj (whole.symm.trans collected)]
          intro file member
          exact ((mem_wanted_files host place project entry rules wanted file).mp member).1

end Wanted

theorem relative_to_root (root : Path) (rest : List Text) :
    Path.relativeTo? ⟨root.root, root.parts ++ rest⟩ root = some rest := by
  simp [Path.relativeTo?]

theorem key_of_below (root : Path) (rest : List Text) :
    keyOf root ⟨root.root, root.parts ++ rest⟩ = Path.text ⟨.none, rest⟩ := by
  simp only [keyOf, relative_to_root]

theorem below_key (root : Path) (rest : List Text) (names : ∀ part ∈ rest, Path.IsName part) :
    root.below (Path.ofText (Path.text ⟨.none, rest⟩)) = ⟨root.root, root.parts ++ rest⟩ := by
  rw [Path.of_text_text ⟨.none, rest⟩ (fun part member => (names part member).1)]
  rfl

theorem below_found (root file : Path) (below : Below root file) :
    root.below (Path.ofText (keyOf root file)) = file := by
  obtain ⟨rest, _, form, names⟩ := below
  rw [form, key_of_below, below_key root rest names]

theorem gathered_key (root : Path) (files : List Path) (gathered : Gathered root files) :
    ∀ file ∈ files, root.below (Path.ofText (keyOf root file)) = file :=
  fun file member => below_found root file (gathered.below file member)

theorem gathered_key_unique (root : Path) (files : List Path) (gathered : Gathered root files) (a b : Path)
    (memberA : a ∈ files) (memberB : b ∈ files) (same : keyOf root a = keyOf root b) : a = b := by
  rw [← gathered_key root files gathered a memberA, ← gathered_key root files gathered b memberB, same]

theorem gathered_keys_before (root : Path) (files : List Path) (gathered : Gathered root files) :
    (files.map (keyOf root)).Pairwise Text.Before := by
  obtain ⟨lead, begins⟩ := Path.text_below root.root root.parts
  rw [List.pairwise_map]
  refine (gathered.ordered.and gathered.nodup).imp_of_mem ?_
  intro a b memberA memberB related
  obtain ⟨less, different⟩ := related
  obtain ⟨restA, someA, formA, namesA⟩ := gathered.below a memberA
  obtain ⟨restB, someB, formB, namesB⟩ := gathered.below b memberB
  constructor
  · -- What the texts of all files begin with is dropped on both sides.
    rw [formA, formB, begins restA someA, begins restB someB, Text.le_append] at less
    rw [formA, formB, key_of_below, key_of_below]
    exact less
  · intro same
    exact different (gathered_key_unique root files gathered a b memberA memberB same)

theorem describe_head (failure : FileFailure) : failure.describe.head? = some (.scalar 'F') := by
  have spelled : (Text.ofString "Failed to parse file: ").head? = some (.scalar 'F') := by decide
  simp [FileFailure.describe, FileFailure.withCause, FileFailure.message, FileFailure.headline, spelled]

theorem told_describe (failure : FileFailure) : SurveyEntry.told failure.describe = failure.describe := by
  have head := describe_head failure
  cases story : failure.describe with
  | nil => simp [story] at head
  | cons first rest => rfl

theorem describe_known (failure : FileFailure) : failure.describe ≠ Text.ofString "unknown error" := by
  intro same
  have head := describe_head failure
  rw [same] at head
  exact absurd head (by decide)

section Entries

variable (host : Host) (resolver : ResolverSettings) (root : Path)

def loaded (file : Path) : Except FileFailure Graph := ModuleFile.load host (resolver.resolve host.disk) file

theorem graph_entry_iff (file : Path) (key : Text) (graph : Graph) :
    (entryFor host resolver root file).graph? = some (key, graph) ↔
      key = keyOf root file ∧ loaded host resolver file = .ok graph := by
  rw [SurveyEntry.graph?, outcome_entryFor]
  cases outcome : ModuleFile.load host (resolver.resolve host.disk) file with
  | ok other => simp [loaded, outcome, entryFor, eq_comm]
  | error failure => simp [loaded, outcome]

theorem failure_entry_iff (file : Path) (key story : Text) :
    (entryFor host resolver root file).failure? = some (key, story) ↔
      key = keyOf root file ∧ ∃ failure, loaded host resolver file = .error failure ∧ story = failure.describe := by
  rw [SurveyEntry.failure?, outcome_entryFor]
  cases outcome : ModuleFile.load host (resolver.resolve host.disk) file with
  | ok graph => simp [loaded, outcome]
  | error failure => simp [loaded, outcome, entryFor, told_describe, eq_comm]

theorem mem_graphs_iff (files : List Path) (key : Text) (graph : Graph) :
    (key, graph) ∈ graphs ⟨root, files.map (entryFor host resolver root)⟩ ↔
      ∃ file ∈ files, key = keyOf root file ∧ loaded host resolver file = .ok graph := by
  simp only [graphs, List.filterMap_map, List.mem_filterMap, Function.comp_apply, graph_entry_iff]

theorem mem_failures_iff (files : List Path) (key story : Text) :
    (key, story) ∈ failures ⟨root, files.map (entryFor host resolver root)⟩ ↔
      ∃ file ∈ files, key = keyOf root file ∧
        ∃ failure, loaded host resolver file = .error failure ∧ story = failure.describe := by
  simp only [failures, List.filterMap_map, List.mem_filterMap, Function.comp_apply, failure_entry_iff]

end Entries

theorem keys_sublist {γ : Type} (view : SurveyEntry → Option (Text × γ))
    (keyed : ∀ entry pair, view entry = some pair → pair.1 = entry.key) (entries : List SurveyEntry) :
    ((entries.filterMap view).map Prod.fst).Sublist (entries.map SurveyEntry.key) := by
  induction entries with
  | nil => exact List.Sublist.slnil
  | cons entry entries ih =>
      cases seen : view entry with
      | none =>
          rw [List.filterMap_cons_none seen]
          exact ih.cons _
      | some pair =>
          rw [List.filterMap_cons_some seen, List.map_cons, List.map_cons, keyed entry pair seen]
          exact ih.cons_cons _

theorem graph_keyed (entry : SurveyEntry) (pair : Text × Graph) (seen : entry.graph? = some pair) :
    pair.1 = entry.key := by
  rw [SurveyEntry.graph?] at seen
  split at seen <;> cases seen
  rfl

theorem failure_keyed (entry : SurveyEntry) (pair : Text × Text) (seen : entry.failure? = some pair) :
    pair.1 = entry.key := by
  rw [SurveyEntry.failure?] at seen
  split at seen <;> cases seen
  rfl

-- How files are divided between the graphs and the failures of a survey. A key stands for the
-- file that it leads to from the root.
structure Partition (host : Host) (resolver : ResolverSettings) (root : Path) (files : List Path) (survey : Survey) :
    Prop where
  start : survey.root = root
  relative : ∀ file ∈ files, ∃ parts, file.relativeTo? root = some parts
  distinct : (files.map (keyOf root)).Nodup
  covered : ∀ key, key ∈ survey.graphs.map Prod.fst ∨ key ∈ survey.failures.map Prod.fst ↔
    ∃ file ∈ files, ∃ parts, file.relativeTo? root = some parts ∧ key = Path.text ⟨.none, parts⟩
  disjoint : ∀ key ∈ survey.graphs.map Prod.fst, key ∉ survey.failures.map Prod.fst
  graphsBefore : (survey.graphs.map Prod.fst).Pairwise Text.Before
  failuresBefore : (survey.failures.map Prod.fst).Pairwise Text.Before
  graphLoaded : ∀ key graph, (key, graph) ∈ survey.graphs →
    loaded host resolver (root.below (Path.ofText key)) = .ok graph
  failureIff : ∀ file ∈ files, keyOf root file ∈ survey.failures.map Prod.fst ↔
    ∃ failure, loaded host resolver (root.below (Path.ofText (keyOf root file))) = .error failure
  storyTold : ∀ key story, (key, story) ∈ survey.failures → story ≠ Text.ofString "unknown error" ∧
    ∃ failure, loaded host resolver (root.below (Path.ofText key)) = .error failure ∧ story = failure.describe

section Division

variable (host : Host) (resolver : ResolverSettings) (root : Path) (files : List Path)

theorem graph_key_iff (key : Text) :
    key ∈ (graphs ⟨root, files.map (entryFor host resolver root)⟩).map Prod.fst ↔
      ∃ file ∈ files, key = keyOf root file ∧ ∃ graph, loaded host resolver file = .ok graph := by
  constructor
  · intro member
    obtain ⟨⟨own, graph⟩, listed, same⟩ := List.mem_map.mp member
    obtain ⟨file, collected, named, done⟩ := (mem_graphs_iff host resolver root files own graph).mp listed
    exact ⟨file, collected, same.symm.trans named, graph, done⟩
  · rintro ⟨file, collected, named, graph, done⟩
    exact List.mem_map.mpr ⟨(key, graph), (mem_graphs_iff host resolver root files key graph).mpr
      ⟨file, collected, named, done⟩, rfl⟩

theorem failure_key_iff (key : Text) :
    key ∈ (failures ⟨root, files.map (entryFor host resolver root)⟩).map Prod.fst ↔
      ∃ file ∈ files, key = keyOf root file ∧ ∃ failure, loaded host resolver file = .error failure := by
  constructor
  · intro member
    obtain ⟨⟨own, story⟩, listed, same⟩ := List.mem_map.mp member
    obtain ⟨file, collected, named, failure, failed, _⟩ :=
      (mem_failures_iff host resolver root files own story).mp listed
    exact ⟨file, collected, same.symm.trans named, failure, failed⟩
  · rintro ⟨file, collected, named, failure, failed⟩
    exact List.mem_map.mpr ⟨(key, failure.describe), (mem_failures_iff host resolver root files key _).mpr
      ⟨file, collected, named, failure, failed, rfl⟩, rfl⟩

theorem gathered_relative (gathered : Gathered root files) (file : Path) (member : file ∈ files) :
    ∃ parts, file.relativeTo? root = some parts ∧ keyOf root file = Path.text ⟨.none, parts⟩ := by
  obtain ⟨rest, _, form, _⟩ := gathered.below file member
  exact ⟨rest, by rw [form, relative_to_root], by rw [form, key_of_below]⟩

theorem keys_before {γ : Type} (view : SurveyEntry → Option (Text × γ))
    (keyed : ∀ entry pair, view entry = some pair → pair.1 = entry.key) (gathered : Gathered root files) :
    (((files.map (entryFor host resolver root)).filterMap view).map Prod.fst).Pairwise Text.Before := by
  refine List.Pairwise.sublist (keys_sublist view keyed _) ?_
  rw [List.map_map]
  exact gathered_keys_before root files gathered

theorem partition_of_gathered (gathered : Gathered root files) :
    Partition host resolver root files ⟨root, files.map (entryFor host resolver root)⟩ where
  start := rfl
  relative := by
    intro file member
    obtain ⟨parts, relative, _⟩ := gathered_relative root files gathered file member
    exact ⟨parts, relative⟩
  distinct := (gathered_keys_before root files gathered).imp fun before => before.2
  covered := by
    intro key
    rw [graph_key_iff, failure_key_iff]
    constructor
    · rintro (⟨file, member, named, _⟩ | ⟨file, member, named, _⟩) <;>
      · obtain ⟨parts, relative, text⟩ := gathered_relative root files gathered file member
        exact ⟨file, member, parts, relative, named.trans text⟩
    · rintro ⟨file, member, parts, relative, text⟩
      have named : key = keyOf root file := by
        rw [text]
        simp only [keyOf, relative]
      cases outcome : loaded host resolver file with
      | ok graph => exact Or.inl ⟨file, member, named, graph, outcome⟩
      | error failure => exact Or.inr ⟨file, member, named, failure, outcome⟩
  disjoint := by
    intro key good bad
    obtain ⟨file, member, named, graph, done⟩ := (graph_key_iff host resolver root files key).mp good
    obtain ⟨other, otherMember, otherNamed, failure, failed⟩ := (failure_key_iff host resolver root files key).mp bad
    have same := gathered_key_unique root files gathered file other member otherMember (named.symm.trans otherNamed)
    rw [← same, done] at failed
    cases failed
  graphsBefore := keys_before host resolver root files SurveyEntry.graph? graph_keyed gathered
  failuresBefore := keys_before host resolver root files SurveyEntry.failure? failure_keyed gathered
  graphLoaded := by
    intro key graph listed
    obtain ⟨file, member, named, done⟩ := (mem_graphs_iff host resolver root files key graph).mp listed
    rw [named, gathered_key root files gathered file member]
    exact done
  failureIff := by
    intro file member
    rw [gathered_key root files gathered file member, failure_key_iff]
    constructor
    · rintro ⟨other, otherMember, named, failure, failed⟩
      have same := gathered_key_unique root files gathered file other member otherMember named
      exact ⟨failure, by rw [same]; exact failed⟩
    · rintro ⟨failure, failed⟩
      exact ⟨file, member, rfl, failure, failed⟩
  storyTold := by
    intro key story listed
    obtain ⟨file, member, named, failure, failed, text⟩ :=
      (mem_failures_iff host resolver root files key story).mp listed
    rw [named, gathered_key root files gathered file member, text]
    exact ⟨describe_known failure, failure, failed, rfl⟩

end Division

theorem load_all_map (schedule : Pool.Schedule) (jobs : Int) (load : Path → SurveyEntry) (files : List Path)
    (completes : 1 < jobs → Pool.Completes jobs.toNat files.length (schedule files.length)) :
    loadAll schedule jobs load files = files.map load := by
  rw [loadAll]
  split
  · rename_i several
    exact Pool.outcomes_of_completes jobs.toNat (schedule files.length) load files (completes several.1)
  · rfl

theorem run_settled (host : Host) (schedule : Pool.Schedule) (plan : Plan) (place : Path)
    (settled : host.settle plan.path = .ok place) :
    run host schedule plan = (do
      let b ← brief host plan place
      let files ← collect host place b.project b.rules b.extensions
      let root := if ← host.isDirectory place then place else place.parent
      return ⟨root, loadAll schedule b.jobs (entryFor host b.resolver root) files⟩) := by
  rw [run, settled, Failure.ok_bind]

theorem run_unrooted (host : Host) (schedule : Pool.Schedule) (plan : Plan) (place : Path) (failure : Failure)
    (settled : host.settle plan.path = .ok place) (unrooted : Project.root host place = .error failure) :
    run host schedule plan = .error failure := by
  rw [run_settled host schedule plan place settled, brief, unrooted, Failure.error_bind, Failure.error_bind]

theorem is_directory_present (host : Host) (place : Path) (entry : Entry)
    (present : host.look place = .ok (some entry)) : host.isDirectory place = .ok entry.isDirectory := by
  rw [Host.isDirectory, present]
  rfl

theorem run_collected (host : Host) (schedule : Pool.Schedule) (plan : Plan) (place : Path) (entry : Entry) (b : Brief)
    (files : List Path) (finds : host.Finds plan.path place entry) (briefed : brief host plan place = .ok b)
    (collected : collect host place b.project b.rules b.extensions = .ok files) :
    run host schedule plan = .ok ⟨rootFor place entry,
      loadAll schedule b.jobs (entryFor host b.resolver (rootFor place entry)) files⟩ := by
  rw [run_settled host schedule plan place finds.settled, briefed, Failure.ok_bind, collected, Failure.ok_bind,
    is_directory_present host place entry finds.present, Failure.ok_bind]
  rfl

-- What ends a survey of a place before any file is loaded.
inductive Stops (host : Host) (plan : Plan) (place : Path) (entry : Entry) : Failure → Prop where
  | unbriefed (failure : Failure) (failed : brief host plan place = .error failure) : Stops host plan place entry failure
  | unread (b : Brief) (failure : Failure) (briefed : brief host plan place = .ok b)
      (failed : suffixes b.extensions = .error failure) : Stops host plan place entry failure
  | blocked (b : Brief) (wanted : List Text) (p : Path) (briefed : brief host plan place = .ok b)
      (read : suffixes b.extensions = .ok wanted) (met : FileTree.blocked? place entry = some p) :
      Stops host plan place entry (.disk .nameTooLong p.text)

structure Ready (host : Host) (plan : Plan) (place : Path) (entry : Entry) (b : Brief) (wanted : List Text) : Prop where
  briefed : brief host plan place = .ok b
  read : suffixes b.extensions = .ok wanted
  free : FileTree.blocked? place entry = none

theorem stops_or_ready (host : Host) (plan : Plan) (place : Path) (entry : Entry) :
    (∃ failure, Stops host plan place entry failure) ∨ ∃ b wanted, Ready host plan place entry b wanted := by
  cases briefed : brief host plan place with
  | error failure => exact Or.inl ⟨failure, .unbriefed failure briefed⟩
  | ok b =>
      cases read : suffixes b.extensions with
      | error failure => exact Or.inl ⟨failure, .unread b failure briefed read⟩
      | ok wanted =>
          cases met : FileTree.blocked? place entry with
          | some p => exact Or.inl ⟨_, .blocked b wanted p briefed read met⟩
          | none => exact Or.inr ⟨b, wanted, briefed, read, met⟩

section Run

variable (host : Host) (sound : host.Sound) (spelled : FileTree.SpelledIn host.tree) (schedule : Pool.Schedule)
  (plan : Plan) (place : Path) (entry : Entry) (finds : host.Finds plan.path place entry)

include sound spelled finds

theorem run_stopped (failure : Failure) (stops : Stops host plan place entry failure) :
    run host schedule plan = .error failure := by
  have again := host.finds_place sound plan.path place entry finds
  rw [run_settled host schedule plan place finds.settled]
  cases stops with
  | unbriefed _ failed => rw [failed, Failure.error_bind]
  | unread b _ briefed failed =>
      rw [briefed, Failure.ok_bind,
        collect_unreadable host place place b.project entry b.rules again b.extensions failure failed,
        Failure.error_bind]
  | blocked b wanted p briefed read met =>
      rw [briefed, Failure.ok_bind,
        collect_blocked host place place b.project entry b.rules wanted sound again spelled b.extensions read p met,
        Failure.error_bind]

theorem collect_ready (b : Brief) (wanted : List Text) (ready : Ready host plan place entry b wanted) :
    collect host place b.project b.rules b.extensions =
      .ok (wantedFiles host place b.project entry b.rules wanted) :=
  collect_wanted host place place b.project entry b.rules wanted sound
    (host.finds_place sound plan.path place entry finds) spelled b.extensions ready.read ready.free

end Run

-- Whatever the settings are, a survey of a path that exists fails only by what cannot be read from
-- them, or by a path that no disk takes.
theorem survey_partition (host : Host) (sound : host.Sound) (spelled : FileTree.SpelledIn host.tree)
    (schedule : Pool.Schedule) (plan : Plan) (place : Path) (entry : Entry)
    (finds : host.Finds plan.path place entry) :
    ((∃ failure, Stops host plan place entry failure) ∨ ∃ b wanted, Ready host plan place entry b wanted) ∧
    (∀ failure, Stops host plan place entry failure → run host schedule plan = .error failure) ∧
    ∀ b wanted, Ready host plan place entry b wanted →
      ∃ files, collect host place b.project b.rules b.extensions = .ok files ∧
        (∀ file, file ∈ files ↔
          file ∈ FileTree.files place entry ∧ wants host wanted b.rules b.project file = true) ∧
        ((1 < b.jobs → Pool.Completes b.jobs.toNat files.length (schedule files.length)) →
          ∃ survey, run host schedule plan = .ok survey ∧
            Partition host b.resolver (rootFor place entry) files survey) := by
  refine ⟨stops_or_ready host plan place entry, run_stopped host sound spelled schedule plan place entry finds, ?_⟩
  intro b wanted ready
  have collected := collect_ready host sound spelled plan place entry finds b wanted ready
  refine ⟨_, collected, mem_wanted_files host place b.project entry b.rules wanted, ?_⟩
  intro completes
  refine ⟨_, run_collected host schedule plan place entry b _ finds ready.briefed collected, ?_⟩
  rw [load_all_map schedule b.jobs _ _ completes]
  exact partition_of_gathered host b.resolver (rootFor place entry) _
    (wanted_gathered host plan.path place b.project entry b.rules wanted sound finds)

theorem full_place_unsurveyed :
    Host.full.Sound ∧ FileTree.SpelledIn Host.full.tree ∧
      Host.full.Finds Host.fullPlace Host.fullPlace (.directory []) ∧ (∃ rules, Host.full.compile [] = .ok rules) ∧
      run Host.full Pool.oneByOne { path := Host.fullPlace, settings := some (.obj []) } =
        .error (.disk .nameTooLong (Host.fullPlace.child Settings.directoryName).text) :=
  ⟨Host.deep_sound _ Host.full_stored, Host.deep_spelled _ Host.full_stored, Host.full_finds, ⟨_, rfl⟩,
    run_unrooted Host.full Pool.oneByOne _ Host.fullPlace _ Host.full_finds.settled Host.full_unrooted⟩

def twoFiles : Host :=
  .bundled [(Text.ofString "p", .directory
      [(Text.ofString "b.ts", .file []), (Text.ofString "a", .directory [(Text.ofString "c.js", .file [])])])]
    ⟨.slash, [Text.ofString "p"]⟩ ⟨.slash, [Text.ofString "h"]⟩

def twoFilesPlan : Plan := ⟨⟨.none, [Path.dotDot, Text.ofString "p"]⟩, some (.obj []), some 2, none⟩

def twoFilesPlace : Path := ⟨.slash, [Text.ofString "p"]⟩

theorem two_files_sound : twoFiles.Sound := ⟨rfl, by decide⟩

theorem two_files_spelled : FileTree.SpelledIn twoFiles.tree := by decide

theorem two_files_found : ∃ entry, twoFiles.Finds twoFilesPlan.path twoFilesPlace entry ∧
    entry.isDirectory = true ∧ FileTree.blocked? twoFilesPlace entry = none := ⟨_, ⟨rfl, rfl⟩, rfl, by decide⟩

theorem survey_partition_two_files :
    ∃ b files survey, brief twoFiles twoFilesPlan twoFilesPlace = .ok b ∧ b.jobs = 2 ∧
      files = sorted [twoFilesPlace.child (Text.ofString "b.ts"),
        (twoFilesPlace.child (Text.ofString "a")).child (Text.ofString "c.js")] ∧
      collect twoFiles twoFilesPlace b.project b.rules b.extensions = .ok files ∧
      run twoFiles Pool.oneByOne twoFilesPlan = .ok survey ∧ Partition twoFiles b.resolver twoFilesPlace files survey := by
  obtain ⟨b, wanted, briefed, jobs, read, listed⟩ : ∃ b wanted, brief twoFiles twoFilesPlan twoFilesPlace = .ok b ∧
      b.jobs = 2 ∧ suffixes b.extensions = .ok wanted ∧
      collect twoFiles twoFilesPlace b.project b.rules b.extensions =
        .ok (sorted [twoFilesPlace.child (Text.ofString "b.ts"),
          (twoFilesPlace.child (Text.ofString "a")).child (Text.ofString "c.js")]) := ⟨_, _, rfl, rfl, rfl, rfl⟩
  obtain ⟨entry, finds, directory, free⟩ := two_files_found
  obtain ⟨_, _, usable⟩ := survey_partition twoFiles two_files_sound two_files_spelled Pool.oneByOne twoFilesPlan
    twoFilesPlace entry finds
  obtain ⟨files, collected, _, surveyed⟩ := usable b wanted ⟨briefed, read, free⟩
  obtain ⟨survey, done, divided⟩ := surveyed fun _ => Pool.one_by_one_completes _ _ (by rw [jobs]; decide)
  have same : files = _ := Except.ok.inj (collected.symm.trans listed)
  rw [rootFor, if_pos directory] at divided
  exact ⟨b, files, survey, briefed, jobs, same, collected, done, divided⟩

end Survey

end Linkage
