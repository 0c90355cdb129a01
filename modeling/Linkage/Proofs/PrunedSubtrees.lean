import Linkage.Proofs.FileSurvey
import Linkage.Proofs.LiteralPatterns
import Linkage.Proofs.ProjectFiles
import Linkage.Proofs.TypedSettings

set_option autoImplicit false

namespace Linkage

namespace Path

theorem suffix_of_suffix (name : Text) : suffixOf name <:+ name := by
  rw [suffixOf]
  split
  · rename_i short
    have whole : name.reverse.takeWhile (· ≠ .scalar '.') ++ name.reverse.dropWhile (· ≠ .scalar '.') = name.reverse :=
      List.takeWhile_append_dropWhile
    have stop := List.head?_dropWhile_not (· ≠ CodePoint.scalar '.') name.reverse
    cases rest : name.reverse.dropWhile (· ≠ .scalar '.') with
    | nil =>
        rw [rest, List.append_nil] at whole
        have length := congrArg List.length whole
        simp only [List.length_reverse] at length short
        omega
    | cons c front =>
        rw [rest] at whole stop
        have dot : c = .scalar '.' := by simpa using stop
        have back := congrArg List.reverse whole
        rw [List.reverse_append, List.reverse_reverse, List.reverse_cons, dot] at back
        exact ⟨front.reverse, by simpa using back⟩
  · exact List.nil_suffix

end Path

namespace Text

-- In a name of plain letters no letter's small form depends on its place.
theorem lower_suffix (tail t : Text) (literal : ∀ c ∈ t, IgnorePattern.isLiteral c = true) (ended : tail <:+ t) :
    lower tail <:+ lower t := by
  have plain (s : Text) (inside : s ⊆ t) : capitalSigma ∉ s :=
    fun member => absurd (literal _ (inside member)) (by decide)
  obtain ⟨front, rfl⟩ := ended
  rw [lower_plain _ (plain _ (List.Subset.refl _)), lower_plain tail (plain _ (List.subset_append_right front tail))]
  exact ⟨front.flatMap CodePoint.lower, by rw [List.flatMap_append]⟩

end Text

namespace Project

variable (host : Host)

def nameLines (names : List Text) : List Text := names.map fun name => name ++ [Path.slash]

-- The only patterns of a project are directory names in the settings' list of built-in patterns.
structure OnlyNames (project : Path) (settings : Settings) (names : List Text) : Prop where
  noFile : host.isFile (project.child ignoreFileName) ≠ .ok true
  noGitFile : host.isFile (project.child gitIgnoreFileName) ≠ .ok true
  listedOnly : ∃ ignore, Setting.section? "ignore" settings = .ok ignore ∧
    listed "builtin_patterns" ignore = .ok ((nameLines names).map .str) ∧ listed "additional_patterns" ignore = .ok []

theorem patterns_of_missing (path : Path) (patterns : List Text) (missing : host.isFile path ≠ .ok true)
    (read : patternsOf host path = .ok patterns) : patterns = [] := by
  obtain ⟨isFile, asked, rest⟩ := Failure.bind_ok _ _ _ read
  cases isFile with
  | true => exact absurd asked missing
  | false => exact (Except.ok.inj rest).symm

theorem ignore_entries_only (project : Path) (settings : Settings) (names : List Text) (entries : List Json)
    (settled : host.settle project = .ok project) (only : OnlyNames host project settings names)
    (read : ignoreEntries host project settings = .ok entries) : entries = (nameLines names).map .str := by
  obtain ⟨ignore, chosen, builtin, additional⟩ := only.listedOnly
  rw [ignoreEntries, settled, Failure.ok_bind, chosen, Failure.ok_bind, builtin, Failure.ok_bind] at read
  obtain ⟨own, ownRead, read⟩ := Failure.bind_ok _ _ _ read
  obtain ⟨usesGit, _, read⟩ := Failure.bind_ok _ _ _ read
  have unlisted := patterns_of_missing host _ own only.noFile ownRead
  simp only [additional, Failure.ok_bind, unlisted, List.map_nil, List.append_nil] at read
  split at read
  · obtain ⟨shared, sharedRead, read⟩ := Failure.bind_ok _ _ _ read
    cases patterns_of_missing host _ shared only.noGitFile sharedRead
    cases read
    exact List.append_nil _
  · exact (Except.ok.inj read).symm

def standardNames : List Text := [".git", ".modgraph", "node_modules"].map Text.ofString

theorem standard_only (project : Path) (settled : host.settle project = .ok project)
    (noFile : host.isFile (project.child ignoreFileName) = .ok false)
    (noGitFile : host.isFile (project.child gitIgnoreFileName) = .ok false) :
    ignoreEntries host project Settings.standard = .ok ((nameLines standardNames).map .str) := by
  have own : patternsOf host (project.child ignoreFileName) = .ok [] := by rw [patternsOf, noFile]; rfl
  have shared : patternsOf host (project.child gitIgnoreFileName) = .ok [] := by rw [patternsOf, noGitFile]; rfl
  rw [ignoreEntries, settled]
  simp only [Failure.ok_bind, own, shared]
  rfl

theorem ignores_names_iff (read : LineReader) (names : List Text) (rules : IgnoreRules) (project file : Path)
    (rest : List Text) (hide : ∀ name ∈ names, read.Hiding (name ++ [Path.slash]))
    (hits : ∀ name ∈ names, read.HitsBelow rest name)
    (said : ∀ path, rules path = true ↔ read.Decides (LineReader.Hitting path) (nameLines names))
    (based : host.settle project = .ok project) (settled : host.settle file = .ok file)
    (beneath : file = ⟨project.root, project.parts ++ rest⟩) :
    ignores host rules project file = true ↔ ∃ name ∈ names, name ∈ rest := by
  have unnegated : ∀ line ∈ nameLines names, read.Hiding line := by
    intro line listed
    obtain ⟨name, member, rfl⟩ := List.mem_map.mp listed
    exact hide name member
  have answer (path : Text) : rules path = true ↔
      ∃ name ∈ names, ∃ own, read (name ++ [Path.slash]) = some own ∧ own.hits path = true := by
    rw [said, read.decides_hiding _ _ unnegated]
    simp [LineReader.Silent, LineReader.Hitting, nameLines]
  rw [ignores_below host rules project file project rest based (beneath ▸ settled), answer, answer]
  constructor
  · rintro (⟨name, listed, own, known, hit⟩ | ⟨name, listed, own, known, hit⟩)
    · exact ⟨name, listed, List.dropLast_subset rest ((hits name listed own known).1.mp hit)⟩
    · exact ⟨name, listed, (hits name listed own known).2.mp hit⟩
  · rintro ⟨name, listed, member⟩
    obtain ⟨own, known, _⟩ := hide name listed
    exact Or.inr ⟨name, listed, own, known, (hits name listed own known).2.mpr member⟩

end Project

namespace Survey

open IgnorePattern (Literal)

theorem wants_names_iff (host : Host) (read : LineReader) (names wanted : List Text) (rules : IgnoreRules)
    (project file : Path) (rest : List Text) (literal : ∀ name ∈ names, Literal name)
    (apart : ∀ name ∈ names, ∀ suffix ∈ wanted, ¬ suffix <:+ Text.lower name)
    (hide : ∀ name ∈ names, read.Hiding (name ++ [Path.slash])) (hits : ∀ name ∈ names, read.HitsBelow rest name)
    (said : ∀ path, rules path = true ↔ read.Decides (LineReader.Hitting path) (Project.nameLines names))
    (based : host.settle project = .ok project) (settled : host.settle file = .ok file)
    (beneath : file = ⟨project.root, project.parts ++ rest⟩) (inside : rest ≠ []) :
    wants host wanted rules project file = true ↔
      Text.lower file.suffix ∈ wanted ∧ ∀ name ∈ names, name ∉ rest.dropLast := by
  have ignored := Project.ignores_names_iff host read names rules project file rest hide hits said based settled beneath
  obtain ⟨directories, last, rfl⟩ := (List.eq_nil_or_concat rest).resolve_left inside
  rw [List.concat_eq_append] at beneath ignored ⊢
  have name : file.name = last := by
    rw [beneath, Path.name, ← List.append_assoc, List.getLast?_concat, Option.getD_some]
  rw [wants, Bool.and_eq_true, List.contains_iff_mem, Bool.not_eq_true', List.dropLast_concat]
  refine and_congr_right ?_
  intro handled
  -- A file of one of the names would have no suffix that is wanted.
  have other : last ∉ names := by
    intro listed
    rw [Path.suffix, name] at handled
    exact apart last listed _ handled (Text.lower_suffix _ _ (literal last listed).2 (Path.suffix_of_suffix last))
  rw [← Bool.not_eq_true, ignored]
  constructor
  · intro free name listed member
    exact free ⟨name, listed, List.mem_append_left _ member⟩
  · rintro free ⟨name, listed, member⟩
    rcases List.mem_append.mp member with above | own
    · exact free name listed above
    · exact other (List.mem_singleton.mp own ▸ listed)

def filesAt (place : Path) (found : Option Entry) : List Path := found.elim [] (FileTree.files place)

-- A survey reports the files with a wanted suffix and without any of the names among the directories
-- between the project and the file, and nothing else.
def ReportsApart (names : List Text) (survey : Survey) (files : List Path) (project : Path) (wanted : List Text) : Prop :=
  ∀ key, survey.Reports key ↔ ∃ file ∈ files, key = keyOf survey.root file ∧ Text.lower file.suffix ∈ wanted ∧
    ∃ rest, file.relativeTo? project = some rest ∧ ∀ name ∈ names, name ∉ rest.dropLast

theorem reports_key_iff (host : Host) (resolver : ResolverSettings) (root : Path) (files : List Path) (key : Text) :
    Reports ⟨root, files.map (entryFor host resolver root)⟩ key ↔ ∃ file ∈ files, key = keyOf root file := by
  rw [Reports, graph_key_iff, failure_key_iff]
  constructor
  · rintro (⟨file, listed, named, _⟩ | ⟨file, listed, named, _⟩) <;> exact ⟨file, listed, named⟩
  · rintro ⟨file, listed, named⟩
    cases outcome : loaded host resolver file with
    | ok graph => exact Or.inl ⟨file, listed, named, graph, outcome⟩
    | error failure => exact Or.inr ⟨file, listed, named, failure, outcome⟩

theorem brief_read (host : Host) (plan : Plan) (place : Path) (b : Brief) (briefed : brief host plan place = .ok b) :
    ∃ settings walker found, Project.root host place = .ok b.project ∧
      settingsFor host plan b.project = .ok settings ∧ Project.ignoreRules host b.project settings = .ok b.rules ∧
      Setting.section? "walker" settings = .ok walker ∧ Setting.part "extensions" walker = .ok found ∧
      b.extensions = Setting.orElse (.texts Resolver.defaultExtensions) found := by
  obtain ⟨project, rooted, rest⟩ := Failure.bind_ok _ _ _ briefed
  obtain ⟨settings, given, rest⟩ := Failure.bind_ok _ _ _ rest
  obtain ⟨walker, read, rest⟩ := Failure.bind_ok _ _ _ rest
  obtain ⟨jobs, _, rest⟩ := Failure.bind_ok _ _ _ rest
  obtain ⟨resolver, _, rest⟩ := Failure.bind_ok _ _ _ rest
  obtain ⟨rules, ruled, rest⟩ := Failure.bind_ok _ _ _ rest
  obtain ⟨found, listed, rest⟩ := Failure.bind_ok _ _ _ rest
  cases rest
  exact ⟨settings, walker, found, rooted, given, ruled, read, listed, rfl⟩

def rootAt (place : Path) (found : Option Entry) : Path := if found.any Entry.isDirectory then place else place.parent

-- A survey of a project that ignores directories of given names. It ends at a path that no disk takes.
def RunPrunes (host : Host) (schedule : Pool.Schedule) (plan : Plan) (place project : Path)
    (wanted names : List Text) : Prop :=
  ∃ found, host.look place = .ok found ∧
    (∀ p, found.bind (FileTree.blocked? place) = some p →
      run host schedule plan = .error (.disk .nameTooLong p.text)) ∧
    (found.bind (FileTree.blocked? place) = none → ∃ survey, run host schedule plan = .ok survey ∧
      survey.root = rootAt place found ∧ ReportsApart names survey (filesAt place found) project wanted)

-- What is known of the lines of some names: they are patterns and no negations, and each is for the directories
-- of its name.
structure NamesKnown (host : Host) (read : LineReader) (names : List Text) (place project : Path) : Prop where
  last : LastDecides host.compile read
  hide : ∀ name ∈ names, read.Hiding (name ++ [Path.slash])
  hits : ∀ found, host.look place = .ok found → ∀ file ∈ filesAt place found, ∀ rest,
    file.relativeTo? project = some rest → ∀ name ∈ names, read.HitsBelow rest name

theorem names_compiled (host : Host) (read : LineReader) (names : List Text) (place project : Path)
    (known : NamesKnown host read names place project) :
    ∃ rules, host.compile ((Project.nameLines names).map .str) = .ok rules ∧
      ∀ path, rules path = true ↔ read.Decides (LineReader.Hitting path) (Project.nameLines names) := by
  refine known.last _ (read.hiding_valid _ ?_)
  intro line listed
  obtain ⟨name, member, rfl⟩ := List.mem_map.mp listed
  exact known.hide name member

section Run

variable (host : Host) (sound : host.Sound) (spelled : FileTree.SpelledIn host.tree) (schedule : Pool.Schedule)
  (plan : Plan) (through : SeenThrough host schedule plan) (place : Path) (settled : host.settle plan.path = .ok place)

include settled

theorem run_missing (b : Brief) (wanted : List Text) (fixed : host.settle place = .ok place)
    (missing : host.look place = .ok none) (briefed : brief host plan place = .ok b)
    (read : suffixes b.extensions = .ok wanted) : run host schedule plan = .ok ⟨place.parent, []⟩ := by
  have collected : collect host place b.project b.rules b.extensions = .ok [] := by
    rw [collect, fixed, Failure.ok_bind, read, Failure.ok_bind, missing]
    rfl
  have asked : host.isDirectory place = .ok false := by
    rw [Host.isDirectory, missing]
    rfl
  rw [run_settled host schedule plan place settled, briefed, Failure.ok_bind, collected, Failure.ok_bind, asked,
    Failure.ok_bind]
  simp only [loadAll, List.length_nil, Nat.not_lt_zero, and_false, if_false, List.map_nil]
  rfl

include sound

theorem run_refused (failure : Failure)
    (refused : brief host plan place = .error failure ∨
      ∃ b, brief host plan place = .ok b ∧ suffixes b.extensions = .error failure) :
    run host schedule plan = .error failure := by
  rw [run_settled host schedule plan place settled]
  rcases refused with failed | ⟨b, briefed, unread⟩
  · rw [failed, Failure.error_bind]
  · obtain ⟨_, _, _, rooted, _⟩ := brief_read host plan place b briefed
    obtain ⟨fixed, _⟩ := Project.root_looked host sound plan.path place b.project settled rooted
    rw [briefed, Failure.ok_bind, collect, fixed, Failure.ok_bind, unread, Failure.error_bind, Failure.error_bind]

include spelled through

theorem run_prunes (read : LineReader) (names wanted : List Text) (literal : ∀ name ∈ names, Literal name) (b : Brief)
    (briefed : brief host plan place = .ok b) (listed : suffixes b.extensions = .ok wanted)
    (known : NamesKnown host read names place b.project)
    (said : ∀ path, b.rules path = true ↔ read.Decides (LineReader.Hitting path) (Project.nameLines names))
    (apart : ∀ name ∈ names, ∀ suffix ∈ wanted, ¬ suffix <:+ Text.lower name) :
    RunPrunes host schedule plan place b.project wanted names := by
  obtain ⟨_, _, _, rooted, _⟩ := brief_read host plan place b briefed
  obtain ⟨fixed, ⟨found, looked⟩, _⟩ := Project.root_looked host sound plan.path place b.project settled rooted
  refine ⟨found, looked, ?_⟩
  cases found with
  | none =>
      refine ⟨fun p met => (by cases met), fun _ => ?_⟩
      refine ⟨_, run_missing host schedule plan place settled b wanted fixed looked briefed listed, rfl, ?_⟩
      intro key
      simp [Reports, graphs, failures, filesAt]
  | some entry =>
      have finds : host.Finds plan.path place entry := ⟨settled, looked⟩
      refine ⟨fun p met => run_stopped host sound spelled schedule plan place entry finds _
        (.blocked b wanted p briefed listed met), fun free => ?_⟩
      refine ⟨_, run_wanted host sound spelled schedule plan place entry b wanted through finds
        ⟨briefed, listed, free⟩, rfl, ?_⟩
      have based := Project.root_settled host sound plan.path place b.project settled rooted
      have kept : ∀ file ∈ FileTree.files place entry, wants host wanted b.rules b.project file = true ↔
          Text.lower file.suffix ∈ wanted ∧
            ∃ rest, file.relativeTo? b.project = some rest ∧ ∀ name ∈ names, name ∉ rest.dropLast := by
        intro file member
        obtain ⟨rest, form, inside, _, own⟩ :=
          file_in_project host sound spelled plan.path place b.project settled rooted entry looked file member
        have relative : file.relativeTo? b.project = some rest := by rw [form, relative_to_root]
        rw [wants_names_iff host read names wanted b.rules b.project file rest literal apart known.hide
          (known.hits _ looked file member rest relative) said based own form inside, relative]
        simp
      intro key
      rw [reports_key_iff]
      constructor
      · rintro ⟨file, member, named⟩
        obtain ⟨below, taken⟩ := (mem_wanted_files host place b.project entry b.rules wanted file).mp member
        exact ⟨file, below, named, (kept file below).mp taken⟩
      · rintro ⟨file, below, named, seen⟩
        exact ⟨file, (mem_wanted_files host place b.project entry b.rules wanted file).mpr
          ⟨below, (kept file below).mpr seen⟩, named⟩

theorem run_prunes_listed (read : LineReader) (names : List Text) (literal : ∀ name ∈ names, Literal name)
    (only : ∀ project settings, Project.root host place = .ok project → settingsFor host plan project = .ok settings →
      Project.OnlyNames host project settings names) (b : Brief) (wanted : List Text)
    (briefed : brief host plan place = .ok b) (listed : suffixes b.extensions = .ok wanted)
    (known : NamesKnown host read names place b.project)
    (apart : ∀ name ∈ names, ∀ suffix ∈ wanted, ¬ suffix <:+ Text.lower name) :
    RunPrunes host schedule plan place b.project wanted names := by
  obtain ⟨settings, _, _, rooted, given, compiled, _⟩ := brief_read host plan place b briefed
  have based := Project.root_settled host sound plan.path place b.project settled rooted
  obtain ⟨entries, read', compiled⟩ := Failure.bind_ok _ _ _ compiled
  obtain ⟨rules, ofNames, said⟩ := names_compiled host read names place b.project known
  rw [Project.ignore_entries_only host b.project settings names entries based (only _ _ rooted given) read',
    ofNames] at compiled
  cases compiled
  exact run_prunes host sound spelled schedule plan through place settled read names wanted literal b briefed listed known
    said apart

theorem run_prunes_standard (read : LineReader) (project : Path) (standard : plan.settings = some Settings.standard)
    (rooted : Project.root host place = .ok project)
    (noFile : host.isFile (project.child Project.ignoreFileName) = .ok false)
    (noGitFile : host.isFile (project.child Project.gitIgnoreFileName) = .ok false)
    (known : NamesKnown host read Project.standardNames place project) :
    RunPrunes host schedule plan place project (Resolver.defaultExtensions.map Text.lower) Project.standardNames := by
  have literal : ∀ name ∈ Project.standardNames, Literal name := by decide
  have apart : ∀ name ∈ Project.standardNames, ∀ suffix ∈ Resolver.defaultExtensions.map Text.lower,
      ¬ suffix <:+ Text.lower name := by decide
  have given : settingsFor host plan project = .ok Settings.standard := by rw [settingsFor, standard]
  obtain ⟨rules, compiled, said⟩ := names_compiled host read _ place project known
  have ruled : Project.ignoreRules host project Settings.standard = .ok rules := by
    rw [Project.ignoreRules, Project.standard_only host project
      (Project.root_settled host sound plan.path place project settled rooted) noFile noGitFile]
    exact compiled
  obtain ⟨b, _, briefed, own, sameRules, _⟩ := brief_of_typed host plan place project Settings.standard _ rooted given
    Settings.standard_typed ruled
  obtain ⟨settings, walker, found, _, again, _, shown, listed, extensions⟩ := brief_read host plan place b briefed
  rw [own, given] at again
  cases again
  cases shown
  cases listed
  have suffixed : suffixes b.extensions = .ok (Resolver.defaultExtensions.map Text.lower) := by
    rw [extensions]
    exact suffixes_texts Resolver.defaultExtensions
  cases own
  cases sameRules
  exact run_prunes host sound spelled schedule plan through place settled read _ _ literal b briefed suffixed known said
    apart

end Run

theorem literal_directories_pruned (host : Host) (sound : host.Sound) (spelled : FileTree.SpelledIn host.tree)
    (schedule : Pool.Schedule) (plan : Plan) (through : SeenThrough host schedule plan) (place : Path)
    (settled : host.settle plan.path = .ok place) (read : LineReader) :
    (∀ names, (∀ name ∈ names, Literal name) →
      (∀ project settings, Project.root host place = .ok project → settingsFor host plan project = .ok settings →
        Project.OnlyNames host project settings names) →
      (∀ failure, (brief host plan place = .error failure ∨
          ∃ b, brief host plan place = .ok b ∧ suffixes b.extensions = .error failure) →
        run host schedule plan = .error failure) ∧
      ∀ b wanted, brief host plan place = .ok b → suffixes b.extensions = .ok wanted →
        NamesKnown host read names place b.project →
        (∀ name ∈ names, ∀ suffix ∈ wanted, ¬ suffix <:+ Text.lower name) →
        RunPrunes host schedule plan place b.project wanted names) ∧
    ∀ project, plan.settings = some Settings.standard → Project.root host place = .ok project →
      host.isFile (project.child Project.ignoreFileName) = .ok false →
      host.isFile (project.child Project.gitIgnoreFileName) = .ok false →
      NamesKnown host read Project.standardNames place project →
      RunPrunes host schedule plan place project (Resolver.defaultExtensions.map Text.lower) Project.standardNames := by
  refine ⟨?_, run_prunes_standard host sound spelled schedule plan through place settled read⟩
  intro names literal only
  exact ⟨run_refused host sound schedule plan place settled,
    run_prunes_listed host sound spelled schedule plan through place settled read names literal only⟩

def nodeModules : Settings :=
  .ofPairs [("ignore", .ofPairs [("builtin_patterns", .texts [Text.ofString "node_modules/"])])]

theorem full_place_unpruned :
    Host.full.Sound ∧ FileTree.SpelledIn Host.full.tree ∧
      Host.full.Finds Host.fullPlace Host.fullPlace (.directory []) ∧
      (∀ project, Project.OnlyNames Host.full project nodeModules [Text.ofString "node_modules"]) ∧
      run Host.full Pool.oneByOne { path := Host.fullPlace, settings := some nodeModules } =
        .error (.disk .nameTooLong (Host.fullPlace.child Settings.directoryName).text) := by
  refine ⟨Host.deep_sound _ Host.full_stored, Host.deep_spelled _ Host.full_stored, Host.full_finds, ?_,
    run_unrooted Host.full Pool.oneByOne _ Host.fullPlace _ Host.full_finds.settled Host.full_unrooted⟩
  intro project
  exact ⟨Host.deep_without_files _ _, Host.deep_without_files _ _, _, rfl, rfl, rfl⟩

def packages : Host :=
  .bundled [(Text.ofString "p", .directory
      [(Text.ofString "node_modules", .directory [(Text.ofString "x.js", .file [])]),
       (Text.ofString "src", .directory
         [(Text.ofString "a.js", .file []),
          (Text.ofString "node_modules", .directory [(Text.ofString "b.js", .file [])])])])]
    ⟨.slash, [Text.ofString "p"]⟩ ⟨.slash, [Text.ofString "h"]⟩

def packagesPlan : Plan := ⟨⟨.slash, [Text.ofString "p"]⟩, some Settings.standard, none, none⟩

theorem packages_sound : packages.Sound := ⟨rfl, by decide⟩

theorem packages_spelled : FileTree.SpelledIn packages.tree := by decide

theorem packages_files (found : Option Entry) (looked : packages.look packagesPlan.path = .ok found) :
    filesAt packagesPlan.path found =
      [[Text.ofString "node_modules", Text.ofString "x.js"], [Text.ofString "src", Text.ofString "a.js"],
        [Text.ofString "src", Text.ofString "node_modules", Text.ofString "b.js"]].map
          fun rest => ⟨.slash, Text.ofString "p" :: rest⟩ := by
  cases looked
  rfl

theorem packages_known :
    NamesKnown packages IgnorePatterns.line Project.standardNames packagesPlan.path packagesPlan.path where
  last := IgnorePatterns.last_decides
  hide := by
    intro name listed
    have literal : Literal name := by
      revert name
      decide
    exact ⟨_, IgnorePatterns.line_literal name literal, rfl⟩
  hits := by
    intro found looked file listed rest relative name named
    have literal : Literal name := by
      revert name
      decide
    obtain ⟨inside, clean, unbroken⟩ : rest ≠ [] ∧ (∀ part ∈ rest, Path.IsPart part) ∧
        ∀ part ∈ rest, Glob.newline ∉ part := by
      rw [packages_files found looked] at listed
      obtain ⟨own, member, rfl⟩ := List.mem_map.mp listed
      cases relative
      revert own
      simp only [Path.IsPart]
      decide
    exact IgnorePatterns.line_hits_below name rest literal inside clean unbroken

theorem literal_directories_pruned_packages :
    ∃ survey, run packages Pool.oneByOne packagesPlan = .ok survey ∧ survey.Reports (Text.ofString "src/a.js") ∧
      ¬ survey.Reports (Text.ofString "src/node_modules/b.js") := by
  obtain ⟨_, standard⟩ := literal_directories_pruned packages packages_sound packages_spelled Pool.oneByOne packagesPlan
    (seen_through_one_by_one packages packagesPlan) packagesPlan.path rfl IgnorePatterns.line
  obtain ⟨found, looked, _, unhindered⟩ := standard packagesPlan.path rfl rfl rfl rfl packages_known
  have files := packages_files found looked
  cases looked
  obtain ⟨survey, surveyed, start, reports⟩ := unhindered (by decide)
  refine ⟨survey, surveyed, ?_, ?_⟩
  · rw [reports, start]
    exact ⟨⟨.slash, [Text.ofString "p", Text.ofString "src", Text.ofString "a.js"]⟩, by decide, by decide, by decide,
      [Text.ofString "src", Text.ofString "a.js"], by decide, by decide⟩
  · rw [reports, start]
    rintro ⟨file, listed, named, _, rest, relative, seen⟩
    simp only [files, List.map_cons, List.map_nil, List.mem_cons, List.not_mem_nil, or_false] at listed
    rcases listed with rfl | rfl | rfl
    · exact absurd named (by decide)
    · exact absurd named (by decide)
    · cases relative
      exact seen (Text.ofString "node_modules") (by decide) (by decide)

end Survey

end Linkage
