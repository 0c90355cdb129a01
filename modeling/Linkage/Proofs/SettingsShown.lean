import Linkage.Execution
import Linkage.Proofs.SurveyPartition

set_option autoImplicit false

namespace Linkage

namespace Settings

variable (host : Host)

-- Where nothing is marked, what stands under the name of the settings directory is no directory.
theorem unmarked_not_directory (base : Path) (plain : base.Plain) (writable : ∀ part ∈ base.parts, Path.Writable part)
    (unmarked : host.isDirectory base = .ok false) (entries : List (Text × Entry)) :
    host.tree.find base.parts ≠ .ok (.directory entries) := by
  intro found
  by_cases long : Path.maxSize < FileTree.nameSize base.text
  · rw [Host.isDirectory, host.look_long base plain writable long] at unmarked
    cases unmarked
  · have held : host.Held base (.directory entries) := ⟨plain, writable, Nat.le_of_not_lt long, found⟩
    rw [Host.isDirectory, host.look_held base _ held] at unmarked
    cases unmarked

theorem project_file_fault (base : Path) (entries : FileTree) (held : host.Held base (.directory entries))
    (unmarked : host.isDirectory (base.child directoryName) = .ok false) :
    ∃ fault, host.tree.find (projectFile base).parts = .error fault ∧ (fault = .missing ∨ fault = .notDirectory) := by
  have marker := Path.plain_child base directoryName held.plain (by decide)
  have file := Path.plain_child _ fileName marker (by decide)
  have writable := Path.writable_child base directoryName held.writable (by decide)
  have noDirectory := unmarked_not_directory host _ marker writable unmarked
  have short : ¬ FileTree.maxNameSize < FileTree.nameSize directoryName := by decide
  have found : host.tree.find (base.child directoryName).parts =
      (FileTree.entry? directoryName entries).elim (.error .missing) .ok := by
    have way := FileTree.find_append host.tree base.parts [directoryName] marker.2
    rw [held.found] at way
    refine way.trans ?_
    change FileTree.follow (.directory entries) [] [directoryName] = _
    rw [FileTree.follow_name directoryName [] entries [] (by decide), if_neg short]
    cases FileTree.entry? directoryName entries <;> rfl
  have below := FileTree.find_append host.tree (base.child directoryName).parts [fileName] file.2
  change host.tree.find (projectFile base).parts = _ at below
  cases present : FileTree.entry? directoryName entries with
  | none =>
      rw [present] at found
      exact ⟨.missing, by rw [below, found]; rfl, Or.inl rfl⟩
  | some entry =>
      rw [present] at found
      cases entry with
      | directory inner => exact absurd found (noDirectory inner)
      | file content => exact ⟨.notDirectory, by rw [below, found]; rfl, Or.inr rfl⟩

theorem project_file_asked (base : Path) (entries : FileTree) (held : host.Held base (.directory entries))
    (unmarked : host.isDirectory (base.child directoryName) = .ok false) :
    ofFile host (projectFile base) =
      if Path.maxSize < FileTree.nameSize (projectFile base).text then
        .error (.disk .nameTooLong (projectFile base).text)
      else .ok none := by
  have plain : (projectFile base).Plain :=
    Path.plain_child _ fileName (Path.plain_child base directoryName held.plain (by decide)) (by decide)
  have writable : ∀ part ∈ (projectFile base).parts, Path.Writable part :=
    Path.writable_child _ fileName (Path.writable_child base directoryName held.writable (by decide)) (by decide)
  by_cases long : Path.maxSize < FileTree.nameSize (projectFile base).text
  · rw [if_pos long, ofFile, Host.isFile, host.look_long _ plain writable long]
    rfl
  · obtain ⟨fault, absent, ordinary⟩ := project_file_fault host base entries held unmarked
    rw [if_neg long, ofFile, Host.isFile,
      host.look_absent _ plain writable (Nat.le_of_not_lt long) fault absent ordinary]
    rfl

-- The settings of an unmarked directory are those outside any project, if its settings file can be
-- asked for at all.
theorem load_unmarked (base : Path) (entries : FileTree) (held : host.Held base (.directory entries))
    (unmarked : host.isDirectory (base.child directoryName) = .ok false) :
    load host (some base) =
      if Path.maxSize < FileTree.nameSize (projectFile base).text then
        load host none >>= fun _ => .error (.disk .nameTooLong (projectFile base).text)
      else load host none := by
  rw [load, load]
  cases overlay host (userFile host) standardMembers with
  | error failure =>
      simp only [Failure.error_bind]
      split <;> rfl
  | ok merged =>
      simp only [Failure.ok_bind, host.settle_held base _ held, overlay, project_file_asked host base entries held unmarked]
      split <;> rfl

end Settings

namespace Execution

variable (host : Host)

def shownAt (place : Path) : Except Failure Settings := do Settings.load host (← Project.find host place)

def usedAt (place : Path) : Except Failure Settings := do Settings.load host (some (← Project.root host place))

def graphUnder (schedule : Pool.Schedule) (seconds : Text) (place : Path) (jobs : Option Int)
    (keepGoing compact : Bool) (settings : Settings) : Except Failure Performance := do
  let survey ← Survey.run host schedule { path := place, settings := some settings, jobs := jobs }
  return {
    report :=
      { status := status keepGoing survey
        output := printed (if compact then .compact else .indented) survey.toJson
        remarks := summary seconds survey }
    records := recordsOf survey
    probes := survey.probes }

theorem config_shown (path place : Path) (settled : host.settle path = .ok place) :
    config host path true = (shownAt host place).map fun settings =>
      { report := { status := 0, output := printed .indented settings } } := by
  rw [config, settled, Failure.ok_bind, shownAt]
  cases Project.find host place with
  | error failure => rfl
  | ok nearest =>
      simp only [if_true, Failure.ok_bind]
      cases Settings.load host nearest <;> rfl

theorem graph_used (schedule : Pool.Schedule) (seconds : Text) (path place : Path) (entry : Entry) (jobs : Option Int)
    (keepGoing compact : Bool) (finds : host.Finds path place entry) (positive : jobs.any (· < 1) = false) :
    graph host schedule seconds path jobs keepGoing compact =
      usedAt host place >>= graphUnder host schedule seconds place jobs keepGoing compact := by
  have holds : host.holds place = .ok true := by
    rw [Host.holds, finds.present]
    rfl
  rw [graph, finds.settled, Failure.ok_bind, holds, Failure.ok_bind, usedAt]
  simp only [Bool.not_true, Bool.false_eq_true, if_false, positive]
  cases Project.root host place with
  | error failure => rfl
  | ok project =>
      simp only [Failure.ok_bind]
      cases Settings.load host (some project) <;> rfl

theorem run_used (schedule : Pool.Schedule) (plan : Survey.Plan) (place : Path)
    (settled : host.settle plan.path = .ok place) (unset : plan.settings = none) :
    Survey.run host schedule plan =
      usedAt host place >>= fun settings => Survey.run host schedule { plan with settings := some settings } := by
  have sameFor (settings : Settings) (walker : Json) :
      Survey.jobsFor { plan with settings := some settings } walker = Survey.jobsFor plan walker := rfl
  have sameResolver (settings given : Settings) :
      Survey.resolverFor { plan with settings := some given } settings = Survey.resolverFor plan settings := rfl
  rw [usedAt, Survey.run, settled, Failure.ok_bind, Survey.brief]
  cases rooted : Project.root host place with
  | error failure => rfl
  | ok project =>
      simp only [Failure.ok_bind, Survey.settingsFor, unset]
      cases loaded : Settings.load host (some project) with
      | error failure => rfl
      | ok settings =>
          simp only [Failure.ok_bind, Survey.run, settled, Survey.brief, rooted, Survey.settingsFor, sameFor,
            sameResolver]

-- Inside a project both are the settings of that project. Outside any, the directory of the place has
-- no settings directory, so its settings file is either not there or too long to ask for.
theorem used_shown (place base : Path) (entries : FileTree) (own : Project.directoryOf host place = .ok base)
    (held : host.Held base (.directory entries)) :
    (Project.find host place ≠ .ok none ∨ FileTree.nameSize (Settings.projectFile base).text ≤ Path.maxSize →
      usedAt host place = shownAt host place) ∧
    (Project.find host place = .ok none → Path.maxSize < FileTree.nameSize (Settings.projectFile base).text →
      usedAt host place =
        shownAt host place >>= fun _ => .error (.disk .nameTooLong (Settings.projectFile base).text)) := by
  rw [usedAt, shownAt, Project.root]
  cases nearest : Project.find host place with
  | error failure => exact ⟨fun _ => rfl, fun outside => by cases outside⟩
  | ok marked =>
      cases marked with
      | some project => exact ⟨fun _ => rfl, fun outside => by cases outside⟩
      | none =>
          have unmarked := Project.base_unmarked host place base own nearest
          simp only [Failure.ok_bind, own, Settings.load_unmarked host base entries held unmarked]
          constructor
          · intro short
            have fits := short.resolve_left fun inside => inside rfl
            rw [if_neg (Nat.not_lt.mpr fits)]
          · intro _ long
            rw [if_pos long]

theorem shown_settings_used (sound : host.Sound) (path place : Path) (entry : Entry)
    (finds : host.Finds path place entry) :
    (config host path true = (shownAt host place).map fun settings =>
      { report := { status := 0, output := printed .indented settings } }) ∧
    (∀ schedule seconds jobs keepGoing compact, jobs.any (· < 1) = false →
      graph host schedule seconds path jobs keepGoing compact =
        usedAt host place >>= graphUnder host schedule seconds place jobs keepGoing compact) ∧
    (∀ schedule plan, host.settle plan.path = .ok place → plan.settings = none →
      Survey.run host schedule plan =
        usedAt host place >>= fun settings => Survey.run host schedule { plan with settings := some settings }) ∧
    ∃ base, Project.directoryOf host place = .ok base ∧
      (Project.find host place ≠ .ok none ∨ FileTree.nameSize (Settings.projectFile base).text ≤ Path.maxSize →
        usedAt host place = shownAt host place) ∧
      (Project.find host place = .ok none → Path.maxSize < FileTree.nameSize (Settings.projectFile base).text →
        usedAt host place =
          shownAt host place >>= fun _ => .error (.disk .nameTooLong (Settings.projectFile base).text)) := by
  have held := host.finds_held sound path place entry finds
  obtain ⟨base, entries, own, _, baseHeld⟩ := Project.base_held host place entry held
  refine ⟨config_shown host path place finds.settled, ?_, ?_, base, own, used_shown host place base entries own baseHeld⟩
  · intro schedule seconds jobs keepGoing compact positive
    exact graph_used host schedule seconds path place entry jobs keepGoing compact finds positive
  · intro schedule plan same unset
    exact run_used host schedule plan place same unset

theorem shown_settings_used_two_files :
    shownAt Survey.twoFiles Survey.twoFilesPlace = .ok Settings.standard ∧
      usedAt Survey.twoFiles Survey.twoFilesPlace = .ok Settings.standard := by
  obtain ⟨_, _, _, base, own, alike, _⟩ := shown_settings_used Survey.twoFiles Survey.two_files_sound
    Survey.twoFilesPlan.path Survey.twoFilesPlace _ ⟨rfl, rfl⟩
  have same : Survey.twoFilesPlace = base := Except.ok.inj own
  have fits : FileTree.nameSize (Settings.projectFile base).text ≤ Path.maxSize := by
    rw [← same]
    decide
  have shown : shownAt Survey.twoFiles Survey.twoFilesPlace = .ok Settings.standard := rfl
  exact ⟨shown, (alike (Or.inr fits)).trans shown⟩

-- A directory with room for the name of a settings directory in it, but not for that of a settings file.
def deepNames : List Text := Path.deepNames 243

def deepPlace : Path := ⟨.slash, deepNames⟩

theorem deep_stored : ∀ name ∈ deepNames, Path.Stored name := Path.deep_stored 243 (by decide) (by decide)

theorem deep_marker_size : FileTree.nameSize (deepPlace.child Settings.directoryName).text ≤ Path.maxSize := by
  decide +kernel

theorem deep_file_size : Path.maxSize < FileTree.nameSize (Settings.projectFile deepPlace).text := by
  decide +kernel

theorem deep_fits : FileTree.nameSize deepPlace.text ≤ Path.maxSize := by
  have size := Path.child_size deepPlace rfl Settings.directoryName
  have fits := deep_marker_size
  omega

theorem deep_held : (Host.deep deepNames).Held deepPlace (.directory []) := Host.deep_held _ deep_stored deep_fits

theorem deep_unmarked : Project.find (Host.deep deepNames) deepPlace = .ok none := by
  have held := deep_held
  have own := Project.directory_of_held (Host.deep deepNames) deepPlace _ held
  rw [Project.find_of_base (Host.deep deepNames) deepPlace deepPlace own]
  apply Project.first_marked_unmarked
  intro above member
  obtain ⟨root, back, split⟩ := Path.ancestor_above deepPlace above member
  have plain := Path.plain_ancestor deepPlace above held.plain member
  have writable (name : Text) (inside : name ∈ above.parts) : Path.Writable name :=
    held.writable name (split ▸ List.mem_append_left back inside)
  have marker := Path.plain_child above Settings.directoryName plain (by decide)
  have fits : FileTree.nameSize (above.child Settings.directoryName).text ≤ Path.maxSize := by
    have below := Path.child_size_below above.parts back Settings.directoryName
    rw [split] at below
    have same : above = ⟨.slash, above.parts⟩ := by rw [← plain.1]
    rw [same]
    exact Nat.le_trans below deep_marker_size
  have absent : (Host.deep deepNames).tree.find (above.child Settings.directoryName).parts = .error .missing := by
    have whole : above.parts ++ back = deepNames := split
    have listed (name : Text) (inside : name ∈ back) : name ∈ deepNames := whole ▸ List.mem_append_right _ inside
    have other : Settings.directoryName ∉ back := fun inside => (deep_stored _ (listed _ inside)).other rfl
    have way := FileTree.find_append (Host.deep deepNames).tree above.parts [Settings.directoryName] marker.2
    rw [Host.deep_found deepNames deep_stored above.parts back whole] at way
    refine way.trans ?_
    change FileTree.follow (.directory (FileTree.chain back)) [] [Settings.directoryName] = _
    rw [FileTree.follow_name _ [] _ [] (by decide), if_neg (by decide), FileTree.entry_chain _ back other]
  rw [Host.isDirectory, Host.look_absent _ _ marker (Path.writable_child above _ writable (by decide)) fits .missing absent
    (Or.inl rfl)]
  rfl

theorem deep_shown : shownAt (Host.deep deepNames) deepPlace = .ok Settings.standard := by
  rw [shownAt, deep_unmarked]
  rfl

theorem deep_used :
    usedAt (Host.deep deepNames) deepPlace = .error (.disk .nameTooLong (Settings.projectFile deepPlace).text) := by
  have own := Project.directory_of_held (Host.deep deepNames) deepPlace _ deep_held
  rw [(used_shown (Host.deep deepNames) deepPlace deepPlace [] own deep_held).2 deep_unmarked deep_file_size, deep_shown]
  rfl

theorem deep_settings_unused :
    (Host.deep deepNames).Sound ∧ (Host.deep deepNames).Finds deepPlace deepPlace (.directory []) ∧
      config (Host.deep deepNames) deepPlace true =
        .ok { report := { status := 0, output := printed .indented Settings.standard } } ∧
      graph (Host.deep deepNames) Pool.oneByOne [] deepPlace none false false =
        .error (.disk .nameTooLong (Settings.projectFile deepPlace).text) ∧
      Survey.run (Host.deep deepNames) Pool.oneByOne { path := deepPlace } =
        .error (.disk .nameTooLong (Settings.projectFile deepPlace).text) := by
  have finds := Host.deep_finds deepNames deep_stored deep_fits
  refine ⟨Host.deep_sound deepNames deep_stored, finds, ?_, ?_, ?_⟩
  · rw [config_shown _ deepPlace deepPlace finds.settled, deep_shown]
    rfl
  · rw [graph_used _ Pool.oneByOne [] deepPlace deepPlace _ none false false finds rfl, deep_used, Failure.error_bind]
  · rw [run_used _ Pool.oneByOne { path := deepPlace } deepPlace finds.settled rfl, deep_used, Failure.error_bind]

end Execution

end Linkage
