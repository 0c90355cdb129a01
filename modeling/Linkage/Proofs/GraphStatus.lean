import Linkage.Proofs.FileSurvey
import Linkage.Proofs.ResolveAgreement
import Linkage.Proofs.TypedSettings

set_option autoImplicit false

namespace Linkage

namespace Survey

section Counts

variable (host : Host) (resolver : ResolverSettings) (root : Path) (files : List Path)

def fails (file : Path) : Bool :=
  match loaded host resolver file with
  | .ok _ => false
  | .error _ => true

theorem view_counted {γ : Type} (view : SurveyEntry → Option γ) (shown : Path → Bool)
    (seen : ∀ file, (view (entryFor host resolver root file)).isSome = shown file) :
    ((files.map (entryFor host resolver root)).filterMap view).length = files.countP shown := by
  rw [List.length_filterMap_eq_countP, List.countP_map]
  exact List.countP_congr fun file _ => by rw [Function.comp_apply, seen]

theorem failures_counted :
    (failures ⟨root, files.map (entryFor host resolver root)⟩).length = files.countP (fails host resolver) := by
  refine view_counted host resolver root files SurveyEntry.failure? (fails host resolver) ?_
  intro file
  rw [SurveyEntry.failure?, outcome_entryFor, fails, loaded]
  cases ModuleFile.load host (resolver.resolve host.disk) file <;> rfl

theorem graphs_counted :
    (graphs ⟨root, files.map (entryFor host resolver root)⟩).length + files.countP (fails host resolver) =
      files.length := by
  have built : (graphs ⟨root, files.map (entryFor host resolver root)⟩).length =
      files.countP fun file => !fails host resolver file := by
    refine view_counted host resolver root files SurveyEntry.graph? _ ?_
    intro file
    rw [SurveyEntry.graph?, outcome_entryFor, fails, loaded]
    cases ModuleFile.load host (resolver.resolve host.disk) file <;> rfl
  have divided := List.length_eq_countP_add_countP (fails host resolver) (l := files)
  simp only [Bool.not_eq_true, Bool.decide_eq_false] at divided
  omega

theorem keys_nodup (gathered : Gathered root files) :
    ((graphs ⟨root, files.map (entryFor host resolver root)⟩).map Prod.fst ++
      (failures ⟨root, files.map (entryFor host resolver root)⟩).map Prod.fst).Nodup := by
  have divided := partition_of_gathered host resolver root files gathered
  refine List.nodup_append.mpr ⟨divided.graphsBefore.imp fun before => before.2,
    divided.failuresBefore.imp fun before => before.2, ?_⟩
  intro key good other bad same
  exact divided.disjoint key good (same ▸ bad)

end Counts

-- A survey begins by settling its path, so it may begin from the place as well.
theorem run_at_place (host : Host) (sound : host.Sound) (schedule : Pool.Schedule) (plan : Plan) (place : Path)
    (entry : Entry) (finds : host.Finds plan.path place entry) :
    run host schedule { plan with path := place } = run host schedule plan := by
  have again := (host.finds_place sound plan.path place entry finds).settled
  rw [run_settled host schedule plan place finds.settled,
    run_settled host schedule { plan with path := place } place again]
  rfl

end Survey

namespace Execution

def builtLine (built total : Nat) (seconds : Text) : Text :=
  Text.ofString "Built " ++ Text.ofNat built ++ Text.ofString " graph(s) from " ++ Text.ofNat total ++
    Text.ofString " file(s) in " ++ seconds ++ Text.ofString "s."

theorem summary_built (seconds : Text) (survey : Survey) (taken : survey.entries ≠ []) :
    ∃ others, summary seconds survey = builtLine survey.graphs.length survey.entries.length seconds :: others := by
  rw [summary]
  split
  · rename_i empty
    exact absurd empty taken
  · split
    · exact ⟨_, rfl⟩
    · exact ⟨_, rfl⟩

def performanceOf (seconds : Text) (keepGoing compact : Bool) (survey : Survey) : Performance where
  report :=
    { status := status keepGoing survey
      output := printed (if compact then .compact else .indented) survey.toJson
      remarks := summary seconds survey }
  records := recordsOf survey
  probes := survey.probes

structure Concludes (host : Host) (resolver : ResolverSettings) (files : List Path) (survey : Survey) (seconds : Text)
    (keepGoing compact : Bool) (report : Report) : Prop where
  output : report.output = printed (if compact then .compact else .indented) survey.toJson
  status : report.status = if !keepGoing && files.any (Survey.fails host resolver) then 1 else 0
  counted : files ≠ [] → ∃ built others, report.remarks = builtLine built files.length seconds :: others ∧
    built + files.countP (Survey.fails host resolver) = files.length

section Conclusion

variable (host : Host) (resolver : ResolverSettings) (root : Path) (files : List Path) (keepGoing : Bool)

theorem status_surveyed :
    status keepGoing ⟨root, files.map (Survey.entryFor host resolver root)⟩ =
      if !keepGoing && files.any (Survey.fails host resolver) then 1 else 0 := by
  have counted := Survey.failures_counted host resolver root files
  rw [status]
  cases broken : files.any (Survey.fails host resolver) with
  | true =>
      obtain ⟨file, member, failed⟩ := List.any_eq_true.mp broken
      have several := List.countP_pos_iff.mpr ⟨file, member, failed⟩
      have told := List.isEmpty_eq_false_iff.mpr (List.ne_nil_of_length_pos (counted ▸ several))
      rw [told]
      cases keepGoing <;> rfl
  | false =>
      have clear := List.countP_eq_zero.mpr (List.any_eq_false.mp broken)
      have told := List.isEmpty_iff.mpr (List.length_eq_zero_iff.mp (counted.trans clear))
      rw [told]
      cases keepGoing <;> rfl

theorem concludes (seconds : Text) (compact : Bool) (survey : Survey)
    (surveyed : survey = ⟨root, files.map (Survey.entryFor host resolver root)⟩) :
    Concludes host resolver files survey seconds keepGoing compact
      (performanceOf seconds keepGoing compact survey).report where
  output := rfl
  status := by
    rw [surveyed]
    exact status_surveyed host resolver root files keepGoing
  counted := by
    intro several
    have entries : survey.entries = files.map (Survey.entryFor host resolver root) := by rw [surveyed]
    have taken : survey.entries ≠ [] := fun empty => several (List.map_eq_nil_iff.mp (entries ▸ empty))
    obtain ⟨others, built⟩ := summary_built seconds survey taken
    rw [entries, List.length_map] at built
    refine ⟨survey.graphs.length, others, built, ?_⟩
    rw [surveyed]
    exact Survey.graphs_counted host resolver root files

end Conclusion

theorem graph_surveyed (host : Host) (sound : host.Sound) (schedule : Pool.Schedule) (seconds : Text)
    (path place : Path) (entry : Entry) (jobs : Option Int) (keepGoing compact : Bool)
    (finds : host.Finds path place entry) (positive : jobs.any (· < 1) = false) :
    graph host schedule seconds path jobs keepGoing compact =
      (Survey.run host schedule { path := path, jobs := jobs }).map (performanceOf seconds keepGoing compact) := by
  have printed (settings : Settings) : graphUnder host schedule seconds place jobs keepGoing compact settings =
      (Survey.run host schedule { path := path, settings := some settings, jobs := jobs }).map
        (performanceOf seconds keepGoing compact) := by
    rw [graphUnder, ← Survey.run_at_place host sound schedule { path := path, settings := some settings, jobs := jobs }
      place entry finds]
    cases Survey.run host schedule { path := place, settings := some settings, jobs := jobs } <;> rfl
  rw [graph_used host schedule seconds path place entry jobs keepGoing compact finds positive,
    run_used host schedule { path := path, jobs := jobs } place finds.settled rfl]
  cases usedAt host place with
  | error failure => rfl
  | ok settings => rw [Failure.ok_bind, Failure.ok_bind, printed settings]

theorem run_performed (origin : Host) (schedule : Pool.Schedule) (seconds : Text) (arguments : List Text)
    (invocation : Invocation) (journal : Log.Journal) (performance : Performance)
    (read : Invocation.ofArguments arguments = .ok invocation)
    (opened : Log.openJournal origin invocation.verbosity = .ok journal)
    (performed : perform (prepared origin journal) schedule seconds invocation.request = .ok performance) :
    (run origin schedule seconds arguments).result = .ok performance.report := by
  rw [run]
  simp only [read, opened, performed]

-- A path with something there, and a number of jobs that can be asked for, with moves that see it through.
structure Serves (host : Host) (schedule : Pool.Schedule) (path place : Path) (entry : Entry) (jobs : Option Int) :
    Prop where
  finds : host.Finds path place entry
  positive : jobs.any (· < 1) = false
  through : Survey.SeenThrough host schedule { path := path, jobs := jobs }

structure Configured (host : Host) (place project : Path) (settings : Settings) (rules : IgnoreRules) : Prop where
  rooted : Project.root host place = .ok project
  read : Settings.load host (some project) = .ok settings
  typed : settings.WellTyped
  compiled : Project.ignoreRules host project settings = .ok rules

structure Surveyed (host : Host) (schedule : Pool.Schedule) (seconds : Text) (path place project : Path)
    (entry : Entry) (jobs : Option Int) (rules : IgnoreRules) (b : Survey.Brief) (wanted : List Text)
    (files : List Path) (survey : Survey) : Prop where
  collected : Survey.collect host place project rules b.extensions = .ok files
  members : ∀ file, file ∈ files ↔
    file ∈ FileTree.files place entry ∧ Survey.wants host wanted rules project file = true
  done : Survey.run host schedule { path := path, jobs := jobs } = .ok survey
  distinct : (survey.graphs.map Prod.fst ++ survey.failures.map Prod.fst).Nodup
  printed : ∀ keepGoing compact, ∃ performance,
    graph host schedule seconds path jobs keepGoing compact = .ok performance ∧
    Concludes host b.resolver files survey seconds keepGoing compact performance.report ∧
    ∀ origin arguments verbosity journal,
      Invocation.ofArguments arguments = .ok ⟨verbosity, .graph path jobs keepGoing compact⟩ →
      Log.openJournal origin verbosity = .ok journal → prepared origin journal = host →
      (run origin schedule seconds arguments).result = .ok performance.report

theorem graph_status (host : Host) (sound : host.Sound) (spelled : FileTree.SpelledIn host.tree)
    (schedule : Pool.Schedule) (seconds : Text) (path place : Path) (entry : Entry) (jobs : Option Int)
    (serves : Serves host schedule path place entry jobs) :
    (∀ failure keepGoing compact, Survey.run host schedule { path := path, jobs := jobs } = .error failure →
      graph host schedule seconds path jobs keepGoing compact = .error failure) ∧
    ∀ project settings rules, Configured host place project settings rules →
      ∃ b wanted, Survey.brief host { path := path, jobs := jobs } place = .ok b ∧
        Survey.suffixes b.extensions = .ok wanted ∧
        (∀ p, FileTree.blocked? place entry = some p → ∀ keepGoing compact,
          graph host schedule seconds path jobs keepGoing compact = .error (.disk .nameTooLong p.text)) ∧
        (FileTree.blocked? place entry = none → ∃ files survey,
          Surveyed host schedule seconds path place project entry jobs rules b wanted files survey) := by
  have finds := serves.finds
  have printed (keepGoing compact : Bool) :=
    graph_surveyed host sound schedule seconds path place entry jobs keepGoing compact finds serves.positive
  have unprinted (failure : Failure) (keepGoing compact : Bool)
      (failed : Survey.run host schedule { path := path, jobs := jobs } = .error failure) :
      graph host schedule seconds path jobs keepGoing compact = .error failure := by
    rw [printed, failed]
    rfl
  refine ⟨unprinted, ?_⟩
  intro project settings rules configured
  obtain ⟨b, wanted, briefed, sameProject, sameRules, listed⟩ := Survey.brief_of_typed host
    { path := path, jobs := jobs } place project settings rules configured.rooted configured.read configured.typed
    configured.compiled
  refine ⟨b, wanted, briefed, listed, ?_, ?_⟩
  · intro p met keepGoing compact
    exact unprinted _ keepGoing compact (Survey.run_stopped host sound spelled schedule _ place entry finds _
      (.blocked b wanted p briefed listed met))
  · intro free
    have ready : Survey.Ready host { path := path, jobs := jobs } place entry b wanted := ⟨briefed, listed, free⟩
    have collected := Survey.collect_ready host sound spelled _ place entry finds b wanted ready
    have surveyed := Survey.run_wanted host sound spelled schedule _ place entry b wanted serves.through finds ready
    have gathered := Survey.wanted_gathered host path place b.project entry b.rules wanted sound finds
    have members := Survey.mem_wanted_files host place b.project entry b.rules wanted
    rw [sameProject, sameRules] at collected surveyed gathered members
    refine ⟨_, _, collected, members, surveyed, Survey.keys_nodup host b.resolver _ _ gathered, ?_⟩
    intro keepGoing compact
    have done := printed keepGoing compact
    rw [surveyed, Except.map] at done
    refine ⟨_, done, concludes host b.resolver _ _ keepGoing seconds compact _ rfl, ?_⟩
    intro origin arguments verbosity journal asked opened same
    exact run_performed origin schedule seconds arguments _ journal _ asked opened (same ▸ done)

theorem full_place_unprinted :
    Host.full.Sound ∧ FileTree.SpelledIn Host.full.tree ∧
      Serves Host.full Pool.oneByOne Host.fullPlace Host.fullPlace (.directory []) none ∧
      graph Host.full Pool.oneByOne [] Host.fullPlace none false false =
        .error (.disk .nameTooLong (Host.fullPlace.child Settings.directoryName).text) := by
  refine ⟨Host.deep_sound _ Host.full_stored, Host.deep_spelled _ Host.full_stored,
    ⟨Host.full_finds, rfl, Survey.seen_through_one_by_one _ _⟩, ?_⟩
  rw [graph_used Host.full Pool.oneByOne [] Host.fullPlace Host.fullPlace _ none false false Host.full_finds rfl, usedAt,
    Host.full_unrooted, Failure.error_bind, Failure.error_bind]

def neighbourhood : Path := ⟨.slash, [Text.ofString "p"]⟩

def emptyFile : Path := ⟨.slash, [Text.ofString "p", Text.ofString "x.js"]⟩

theorem neighbours_configured :
    ∃ settings rules b, Configured neighbours neighbourhood neighbourhood settings rules ∧
      Survey.brief neighbours { path := neighbourhood } neighbourhood = .ok b ∧
      Survey.collect neighbours neighbourhood neighbourhood rules b.extensions =
        .ok (Survey.sorted [linkingFile, strayFile, emptyFile]) ∧
      [linkingFile, strayFile, emptyFile].countP (Survey.fails neighbours b.resolver) = 1 :=
  ⟨_, _, _, ⟨rfl, rfl, Settings.standard_typed, rfl⟩, rfl, rfl, rfl⟩

theorem neighbours_serve :
    ∃ entry, Serves neighbours Pool.oneByOne neighbourhood neighbourhood entry none ∧
      FileTree.blocked? neighbourhood entry = none :=
  ⟨_, ⟨⟨rfl, rfl⟩, rfl, Survey.seen_through_one_by_one _ _⟩, by decide⟩

theorem neighbours_spelled : FileTree.SpelledIn neighbours.tree := by decide

theorem graph_status_neighbours :
    ∃ report kept others,
      (run neighbours Pool.oneByOne (Text.ofString "0.0") [Text.ofString "graph", Text.ofString "/p"]).result =
        .ok report ∧
      report.status = 1 ∧ report.remarks = builtLine 2 3 (Text.ofString "0.0") :: others ∧
      graph neighbours Pool.oneByOne (Text.ofString "0.0") neighbourhood none true false = .ok kept ∧
      kept.report.status = 0 ∧ kept.report.output = report.output := by
  obtain ⟨settings, rules, known, configured, knownBriefed, listed, failed⟩ := neighbours_configured
  obtain ⟨entry, serves, free⟩ := neighbours_serve
  obtain ⟨_, answered⟩ := graph_status neighbours neighbours_sound neighbours_spelled Pool.oneByOne
    (Text.ofString "0.0") neighbourhood neighbourhood entry none serves
  obtain ⟨b, wanted, briefed, _, _, unhindered⟩ := answered neighbourhood settings rules configured
  obtain ⟨files, survey, surveyed⟩ := unhindered free
  have sameBrief : known = b := Except.ok.inj (knownBriefed.symm.trans briefed)
  rw [sameBrief] at listed failed
  have sameFiles := Except.ok.inj (listed.symm.trans surveyed.collected)
  have taken : files.length = 3 := by
    rw [← sameFiles]
    exact List.length_mergeSort _
  have counted : files.countP (Survey.fails neighbours b.resolver) = 1 := by
    rw [← sameFiles]
    exact ((List.mergeSort_perm _ _).countP_eq _).trans failed
  have broken : files.any (Survey.fails neighbours b.resolver) = true :=
    List.any_eq_true.mpr (List.countP_pos_iff.mp (by rw [counted]; decide))
  obtain ⟨done, _, ends, started⟩ := surveyed.printed false false
  obtain ⟨kept, keptDone, keptEnds, _⟩ := surveyed.printed true false
  have asked : Invocation.ofArguments [Text.ofString "graph", Text.ofString "/p"] =
      .ok ⟨⟨false, false⟩, .graph neighbourhood none false false⟩ := by with_unfolding_all rfl
  have result := started neighbours _ ⟨false, false⟩ _ asked rfl rfl
  obtain ⟨built, others, remarks, divided⟩ := ends.counted (List.ne_nil_of_length_pos (by rw [taken]; decide))
  have two : built = 2 := by omega
  rw [two, taken] at remarks
  refine ⟨done.report, kept, others, result, ?_, remarks, keptDone, ?_, ?_⟩
  · rw [ends.status, broken]
    rfl
  · rw [keptEnds.status]
    rfl
  · rw [keptEnds.output, ends.output]

end Execution

end Linkage
