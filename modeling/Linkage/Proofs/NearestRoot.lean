import Linkage.Proofs.FileSurvey
import Linkage.Proofs.RefusedPaths

set_option autoImplicit false

namespace Linkage

namespace Path

-- No name is too long, and neither is the path with the name of a settings directory after it.
def Fits (p : Path) : Prop :=
  (∀ part ∈ p.parts, FileTree.nameSize part ≤ FileTree.maxNameSize) ∧
    FileTree.nameSize (p.child Settings.directoryName).text ≤ maxSize

theorem plain_above (a p : Path) (plain : p.Plain) (above : a.Above p) : a.Plain :=
  ⟨above.1.trans plain.1, fun part member => plain.2 part (above.2.subset member)⟩

theorem fits_above (a p : Path) (plain : p.Plain) (above : a.Above p) (fits : p.Fits) : a.Fits := by
  obtain ⟨short, whole⟩ := fits
  refine ⟨fun part member => short part (above.2.subset member), ?_⟩
  obtain ⟨root, parts⟩ := p
  obtain ⟨otherRoot, front⟩ := a
  cases above.1
  cases plain.1
  obtain ⟨back, split⟩ := above.2
  have size := child_size_below front back Settings.directoryName
  rw [split] at size
  exact Nat.le_trans size whole

theorem text_fits (p : Path) (plain : p.Plain) (fits : p.Fits) : FileTree.nameSize p.text ≤ maxSize := by
  have size := child_size p plain.1 Settings.directoryName
  have whole := fits.2
  omega

end Path

namespace Project

variable (host : Host)

def Marked (a : Path) : Prop :=
  ∃ entries, host.tree.find (a.child Settings.directoryName).parts = .ok (.directory entries)

-- The marked place at a path or above it that every other one is above, or nothing if there is none.
def Nearest (start : Path) : Option Path → Prop
  | some a => a.Above start ∧ Marked host a ∧ ∀ b, b.Above start → Marked host b → b.Above a
  | none => ∀ b, b.Above start → ¬ Marked host b

def startOf (place : Path) : Path :=
  match host.tree.find place.parts with
  | .ok (.file _) => place.parent
  | _ => place

def climb (current : Path) : Except Failure (Option Path) := do
  if ← host.isDirectory (current.child Settings.directoryName) then return some current
  else if current.parent = current then return none
  else climb current.parent
termination_by current.parts.length
decreasing_by
  rename_i moves
  have below := mt (Path.parent_self_iff current).mpr moves
  have size := List.length_pos_iff.mpr below
  rw [Path.parent, List.length_dropLast]
  omega

theorem climb_step (p : Path) :
    climb host p = host.isDirectory (p.child Settings.directoryName) >>= fun marked =>
      if marked then .ok (some p) else if p.parent = p then .ok none else climb host p.parent := by
  rw [climb]
  rfl

theorem climb_ancestors (p : Path) : climb host p = firstMarked host p.ancestors := by
  induction p using Path.parent_induction with
  | step p ih =>
      rw [climb_step, Path.ancestors_step, firstMarked]
      cases host.isDirectory (p.child Settings.directoryName) with
      | error failure => rfl
      | ok marked =>
          simp only [Failure.ok_bind]
          cases marked with
          | true => rfl
          | false =>
              by_cases top : p.parent = p
              · simp only [if_pos top]
                rfl
              · simp only [if_neg top]
                exact ih top

theorem find_climbs (path : Path) : find host path = directoryOf host path >>= climb host := by
  have same : climb host = fun p => firstMarked host p.ancestors := funext (climb_ancestors host)
  rw [find, same]

theorem start_above (place : Path) : (startOf host place).Above place := by
  rw [startOf]
  split
  · exact Path.parent_above place
  · exact Path.above_refl place

theorem marked_found (a : Path) (plain : a.Plain) (marked : Marked host a) :
    ∃ entries, host.tree.find a.parts = .ok (.directory entries) := by
  obtain ⟨inner, present⟩ := marked
  have names := (Path.plain_child a Settings.directoryName plain (by decide)).2
  rw [Path.child, FileTree.find_append host.tree a.parts _ names] at present
  cases found : host.tree.find a.parts with
  | error fault =>
      rw [found] at present
      cases present
  | ok entry =>
      cases entry with
      | directory entries => exact ⟨entries, rfl⟩
      | file content =>
          rw [found] at present
          cases present

-- What is marked is no file, so the search from a file does not start below it.
theorem marked_start (a place : Path) (plain : place.Plain) (marked : Marked host a) (above : a.Above place) :
    a.Above (startOf host place) := by
  rw [startOf]
  split
  · rename_i content file
    rcases Path.above_cases a place above with same | ⟨_, higher⟩
    · obtain ⟨entries, found⟩ := marked_found host place plain (same ▸ marked)
      cases found.symm.trans file
    · exact higher
  · exact above

inductive Asked (a : Path) : Except Failure Bool → Prop where
  | marked (marked : Marked host a) : Asked a (.ok true)
  | unmarked (unmarked : ¬ Marked host a) : Asked a (.ok false)
  | refused (refused : host.Refuses (a.child Settings.directoryName)) :
      Asked a (.error (.disk .nameTooLong (a.child Settings.directoryName).text))

section Climb

variable (spelled : FileTree.SpelledIn host.tree)

include spelled

theorem marker_asked (a : Path) (plain : a.Plain) : Asked host a (host.isDirectory (a.child Settings.directoryName)) := by
  have seen := host.look_seen spelled _ (Path.plain_child a Settings.directoryName plain (by decide))
  rw [Host.isDirectory]
  generalize host.look (a.child Settings.directoryName) = looked at seen ⊢
  cases seen with
  | held entry held =>
      cases entry with
      | file content =>
          refine .unmarked ?_
          rintro ⟨entries, present⟩
          rw [held.found] at present
          cases present
      | directory entries => exact .marked ⟨entries, held.found⟩
  | absent absent =>
      refine .unmarked ?_
      rintro ⟨entries, present⟩
      exact absent _ present
  | refused refused => exact .refused refused

theorem directory_of_settled (sound : host.Sound) (path place : Path) (settled : host.settle path = .ok place) :
    directoryOf host path = .ok (startOf host place) ∨
      directoryOf host path = .error (.disk .nameTooLong place.text) ∧ host.Refuses place := by
  have seen := host.look_seen spelled place (host.settle_plain sound path place settled)
  rw [directoryOf, settled, Failure.ok_bind, Host.isFile, startOf]
  generalize host.look place = looked at seen ⊢
  cases seen with
  | held entry held =>
      rw [held.found]
      cases entry <;> exact Or.inl rfl
  | absent absent =>
      left
      cases found : host.tree.find place.parts with
      | ok entry => exact absurd found (absent entry)
      | error fault => rfl
  | refused refused => exact Or.inr ⟨rfl, refused⟩

theorem climb_cases (p : Path) (plain : p.Plain) :
    (climb host p = .ok (some p) ∧ Marked host p) ∨
    (climb host p = .ok none ∧ p.parent = p ∧ ¬ Marked host p) ∨
    (climb host p = climb host p.parent ∧ p.parent ≠ p ∧ ¬ Marked host p) ∨
    climb host p = .error (.disk .nameTooLong (p.child Settings.directoryName).text) ∧
      host.Refuses (p.child Settings.directoryName) := by
  have asked := marker_asked host spelled p plain
  rw [climb_step]
  generalize host.isDirectory (p.child Settings.directoryName) = marked at asked ⊢
  cases asked with
  | marked marked => exact Or.inl ⟨rfl, marked⟩
  | unmarked unmarked =>
      by_cases top : p.parent = p
      · exact Or.inr (Or.inl ⟨by simp [Failure.ok_bind, top], top, unmarked⟩)
      · exact Or.inr (Or.inr (Or.inl ⟨by simp [Failure.ok_bind, top], top, unmarked⟩))
  | refused refused => exact Or.inr (Or.inr (Or.inr ⟨rfl, refused⟩))

theorem climb_nearest (p : Path) (plain : p.Plain) (found : Option Path) (climbed : climb host p = .ok found) :
    Nearest host p found := by
  induction p using Path.parent_induction with
  | step p ih =>
      rcases climb_cases host spelled p plain with ⟨ended, marked⟩ | ⟨ended, top, unmarked⟩ |
        ⟨ended, higher, unmarked⟩ | ⟨ended, _⟩
      · cases ended.symm.trans climbed
        exact ⟨Path.above_refl p, marked, fun b above _ => above⟩
      · cases ended.symm.trans climbed
        intro b above markedB
        rcases Path.above_cases b p above with same | ⟨moves, _⟩
        · exact unmarked (same ▸ markedB)
        · exact moves top
      · have nearest := ih higher (Path.plain_parent p plain) (ended.symm.trans climbed)
        -- The path itself is unmarked, so what is marked and above it is above its parent.
        have upper : ∀ b, b.Above p → Marked host b → b.Above p.parent := by
          intro b above marked
          rcases Path.above_cases b p above with same | ⟨_, above⟩
          · exact absurd (same ▸ marked) unmarked
          · exact above
        cases found with
        | none => exact fun b above marked => nearest b (upper b above marked) marked
        | some a =>
            obtain ⟨above, marked, deepest⟩ := nearest
            exact ⟨Path.above_trans a p.parent p above (Path.parent_above p), marked,
              fun b aboveB markedB => deepest b (upper b aboveB markedB) markedB⟩
      · cases ended.symm.trans climbed

theorem climb_between (a q p : Path) (plain : p.Plain) (climbed : climb host p = .ok (some a)) (above : a.Above q)
    (between : q.Above p) : climb host q = .ok (some a) := by
  induction p using Path.parent_induction with
  | step p ih =>
      rcases Path.above_cases q p between with same | ⟨_, higher⟩
      · rw [same]
        exact climbed
      · rcases climb_cases host spelled p plain with ⟨ended, _⟩ | ⟨ended, _⟩ | ⟨ended, moves, _⟩ | ⟨ended, _⟩
        · have same : p = a := Option.some.inj (Except.ok.inj (ended.symm.trans climbed))
          rw [Path.above_antisymm q p between (same ▸ above)]
          exact climbed
        · cases ended.symm.trans climbed
        · exact ih moves (Path.plain_parent p plain) (ended.symm.trans climbed) higher
        · cases ended.symm.trans climbed

theorem climb_fails (p : Path) (plain : p.Plain) (failure : Failure) (climbed : climb host p = .error failure) :
    (∃ text, failure = .disk .nameTooLong text) ∧ ¬ p.Fits := by
  induction p using Path.parent_induction with
  | step p ih =>
      rcases climb_cases host spelled p plain with ⟨ended, _⟩ | ⟨ended, _⟩ | ⟨ended, moves, _⟩ | ⟨ended, refused⟩
      · cases ended.symm.trans climbed
      · cases ended.symm.trans climbed
      · obtain ⟨long, unfit⟩ := ih moves (Path.plain_parent p plain) (ended.symm.trans climbed)
        exact ⟨long, mt (Path.fits_above p.parent p plain (Path.parent_above p)) unfit⟩
      · cases ended.symm.trans climbed
        refine ⟨⟨_, rfl⟩, ?_⟩
        intro fits
        rcases host.refuses_size _ (Path.plain_child p _ plain (by decide)) refused with long | ⟨part, member, long⟩
        · exact Nat.not_lt.mpr fits.2 long
        · rcases List.mem_append.mp member with own | last
          · exact Nat.not_lt.mpr (fits.1 part own) long
          · rw [List.mem_singleton.mp last] at long
            revert long
            decide

variable (sound : host.Sound) (path place : Path) (settled : host.settle path = .ok place)

include sound settled

theorem find_answers :
    (∃ found, find host path = .ok found) ∨
      ∃ text, find host path = .error (.disk .nameTooLong text) ∧ ¬ place.Fits := by
  have plain := host.settle_plain sound path place settled
  rw [find_climbs]
  rcases directory_of_settled host spelled sound path place settled with start | ⟨failed, refused⟩
  · rw [start, Failure.ok_bind]
    cases climbed : climb host (startOf host place) with
    | ok found => exact Or.inl ⟨found, rfl⟩
    | error failure =>
        have startPlain := Path.plain_above _ place plain (start_above host place)
        obtain ⟨⟨text, rfl⟩, unfit⟩ := climb_fails host spelled _ startPlain failure climbed
        exact Or.inr ⟨text, rfl, mt (Path.fits_above _ place plain (start_above host place)) unfit⟩
  · refine Or.inr ⟨place.text, by rw [failed, Failure.error_bind], ?_⟩
    intro fits
    rcases host.refuses_size place plain refused with long | ⟨part, member, long⟩
    · exact Nat.not_lt.mpr (Path.text_fits place plain fits) long
    · exact Nat.not_lt.mpr (fits.1 part member) long

theorem find_ok (found : Option Path) (answered : find host path = .ok found) :
    climb host (startOf host place) = .ok found := by
  rw [find_climbs] at answered
  rcases directory_of_settled host spelled sound path place settled with start | ⟨failed, _⟩
  · rwa [start, Failure.ok_bind] at answered
  · rw [failed, Failure.error_bind] at answered
    cases answered

-- Whatever has been found from a place is found from every place on the way.
theorem find_between (a : Path) (answered : find host path = .ok (some a)) (other q : Path)
    (otherSettled : host.settle other = .ok q) (above : a.Above q) (between : q.Above (startOf host place)) :
    find host other = .ok (some a) := by
  have plain := host.settle_plain sound path place settled
  have startPlain := Path.plain_above _ place plain (start_above host place)
  have plainQ := host.settle_plain sound other q otherSettled
  have climbed := find_ok host spelled sound path place settled (some a) answered
  have marked := (climb_nearest host spelled _ startPlain (some a) climbed).2.1
  have fromQ := climb_between host spelled a q _ startPlain climbed above between
  rw [find_climbs]
  rcases directory_of_settled host spelled sound other q otherSettled with start | ⟨_, refused⟩
  · rw [start, Failure.ok_bind]
    exact climb_between host spelled a (startOf host q) q plainQ fromQ (marked_start host a q plainQ marked above)
      (start_above host q)
  · -- A place that cannot be looked at would have stopped the search on its way.
    have markerRefused := host.refuses_child q Settings.directoryName plainQ (by decide) (by decide) refused
    have failed := host.look_refused _ (Path.plain_child q Settings.directoryName plainQ (by decide)) markerRefused
    rw [climb_step, Host.isDirectory, failed] at fromQ
    cases fromQ

end Climb

theorem find_settled (path place : Path) (settled : host.settle path = .ok place)
    (fixed : host.settle place = .ok place) : find host place = find host path := by
  rw [find, find, directoryOf, directoryOf, settled, fixed]

def Within (rules : IgnoreRules) (project file : Path) : Prop :=
  host.settle project = .ok project ∧ host.settle file = .ok file ∧
    ∃ rest, rest ≠ [] ∧ file = ⟨project.root, project.parts ++ rest⟩ ∧
      ignores host rules project file = IgnoreRules.ignoresRelative rules (Path.text ⟨.none, rest⟩)

theorem within_of_below (rules : IgnoreRules) (project file : Path) (rest : List Text) (nonempty : rest ≠ [])
    (below : file = ⟨project.root, project.parts ++ rest⟩) (based : host.settle project = .ok project)
    (settled : host.settle file = .ok file) : Within host rules project file := by
  refine ⟨based, settled, rest, nonempty, below, ?_⟩
  rw [ignores, settled, based]
  simp only [IgnoreRules.ignores, below, Survey.relative_to_root]

end Project

namespace Survey

theorem brief_rooted (host : Host) (plan : Plan) (place : Path) (b : Brief) (briefed : brief host plan place = .ok b) :
    Project.root host place = .ok b.project := by
  obtain ⟨project, rooted, _⟩ := Failure.bind_ok _ _ _ briefed
  rw [rooted, brief_project host plan place project b rooted briefed]

section Brief

variable (host : Host) (sound : host.Sound) (spelled : FileTree.SpelledIn host.tree) (plan : Plan) (place : Path) (b : Brief)
  (settled : host.settle plan.path = .ok place) (briefed : brief host plan place = .ok b)

include sound settled briefed spelled

theorem listed_within (entry : Entry) (present : host.look place = .ok (some entry)) :
    ∀ file ∈ FileTree.files place entry, Project.Within host b.rules b.project file := by
  intro file listed
  have rooted := brief_rooted host plan place b briefed
  obtain ⟨rest, below, nonempty, _, fixed⟩ := file_in_project host sound spelled plan.path place b.project settled rooted
    entry present file listed
  exact Project.within_of_below host b.rules b.project file rest nonempty below
    (Project.root_settled host sound plan.path place b.project settled rooted) fixed

theorem collected_within (files : List Path)
    (collected : collect host place b.project b.rules b.extensions = .ok files) :
    ∀ file ∈ files, Project.Within host b.rules b.project file := by
  have rooted := brief_rooted host plan place b briefed
  have fixed := (Project.root_looked host sound plan.path place b.project settled rooted).1
  obtain ⟨_, same, rest⟩ := Failure.bind_ok _ _ _ collected
  cases Except.ok.inj (same.symm.trans fixed)
  obtain ⟨wanted, _, rest⟩ := Failure.bind_ok _ _ _ rest
  obtain ⟨looked, present, last⟩ := Failure.bind_ok _ _ _ rest
  cases looked with
  | none =>
      cases last
      simp
  | some entry =>
      intro file member
      exact listed_within host sound spelled plan place b settled briefed entry present file
        (collected_listed host place place b.project entry b.rules sound ⟨fixed, present⟩ spelled b.extensions files
          collected file member)

end Brief

end Survey

namespace Project

-- The project of a survey is what the search finds, or else the directory that it starts at.
theorem brief_nearest (host : Host) (sound : host.Sound) (spelled : FileTree.SpelledIn host.tree) (path place : Path)
    (plan : Survey.Plan) (b : Survey.Brief) (settled : host.settle path = .ok place)
    (planned : host.settle plan.path = .ok place) (briefed : Survey.brief host plan place = .ok b) :
    ∃ found, find host path = .ok found ∧ b.project = found.getD (startOf host place) := by
  have rooted := Survey.brief_rooted host plan place b briefed
  have fixed := (root_looked host sound plan.path place b.project planned rooted).1
  obtain ⟨found, answered, rest⟩ := Failure.bind_ok _ _ _ rooted
  rw [find_settled host path place settled fixed] at answered
  refine ⟨found, answered, ?_⟩
  cases found with
  | some a =>
      cases rest
      rfl
  | none =>
      rcases directory_of_settled host spelled sound place place fixed with start | ⟨failed, _⟩
      · exact Except.ok.inj (rest.symm.trans start)
      · cases rest.symm.trans failed

theorem nearest_root (host : Host) (sound : host.Sound) (spelled : FileTree.SpelledIn host.tree) (path place : Path)
    (settled : host.settle path = .ok place) :
    find host path = directoryOf host path >>= climb host ∧
    ((∃ found, find host path = .ok found) ∨
      ∃ text, find host path = .error (.disk .nameTooLong text) ∧ ¬ place.Fits) ∧
    (∀ found, find host path = .ok found → Nearest host (startOf host place) found) ∧
    (∀ a other q, find host path = .ok (some a) → host.settle other = .ok q → a.Above q →
      q.Above (startOf host place) → find host other = .ok (some a)) ∧
    ∀ plan b, host.settle plan.path = .ok place → Survey.brief host plan place = .ok b →
      (∃ found, find host path = .ok found ∧ b.project = found.getD (startOf host place)) ∧
      (∀ entry, host.look place = .ok (some entry) →
        ∀ file ∈ FileTree.files place entry, Within host b.rules b.project file) ∧
      ∀ files, Survey.collect host place b.project b.rules b.extensions = .ok files →
        ∀ file ∈ files, Within host b.rules b.project file := by
  refine ⟨find_climbs host path, find_answers host spelled sound path place settled, ?_, ?_, ?_⟩
  · intro found answered
    have plain := host.settle_plain sound path place settled
    have startPlain := Path.plain_above _ place plain (start_above host place)
    exact climb_nearest host spelled _ startPlain found (find_ok host spelled sound path place settled found answered)
  · intro a other q answered otherSettled above between
    exact find_between host spelled sound path place settled a answered other q otherSettled above between
  · intro plan b planned briefed
    exact ⟨brief_nearest host sound spelled path place plan b settled planned briefed,
      Survey.listed_within host sound spelled plan place b planned briefed,
      Survey.collected_within host sound spelled plan place b planned briefed⟩

def nestedSources : Path := ⟨.slash, [Text.ofString "p", Text.ofString "src"]⟩

theorem nearest_root_nested :
    Nearest Survey.nested nestedSources (some Survey.nestedRoot) ∧
      find Survey.nested ⟨.none, [Text.ofString "src"]⟩ = .ok (some Survey.nestedRoot) ∧
      ∃ b, Survey.brief Survey.nested Survey.nestedFilePlan Survey.nestedFile = .ok b ∧
        b.project = Survey.nestedRoot ∧ Within Survey.nested b.rules Survey.nestedRoot Survey.nestedFile := by
  obtain ⟨_, _, nearest, between, surveyed⟩ := nearest_root Survey.nested Survey.nested_sound Survey.nested_spelled
    Survey.nestedFilePlan.path Survey.nestedFile rfl
  have answered : find Survey.nested Survey.nestedFilePlan.path = .ok (some Survey.nestedRoot) := rfl
  obtain ⟨b, briefed⟩ : ∃ b, Survey.brief Survey.nested Survey.nestedFilePlan Survey.nestedFile = .ok b := ⟨_, rfl⟩
  obtain ⟨⟨found, same, rooted⟩, listed, _⟩ := surveyed Survey.nestedFilePlan b rfl briefed
  have project : b.project = Survey.nestedRoot := by
    cases answered.symm.trans same
    exact rooted
  refine ⟨nearest _ answered, ?_, b, briefed, project, ?_⟩
  · exact between _ _ nestedSources answered rfl ⟨rfl, [Text.ofString "src"], rfl⟩ ⟨rfl, [], rfl⟩
  · rw [← project]
    exact listed (.file []) rfl Survey.nestedFile (by simp [FileTree.files])

def outsize : Host :=
  .bundled [(Text.ofString "proj", .directory [(Text.ofString ".modgraph", .directory [])])]
    ⟨.slash, [Text.ofString "proj"]⟩ ⟨.slash, [Text.ofString "home"]⟩

def outsizeName : Text := List.replicate 256 (.scalar 'a')

def outsizeRoot : Path := ⟨.slash, [Text.ofString "proj"]⟩

def outsizePath : Path := outsizeRoot.child outsizeName

theorem outsize_sound : outsize.Sound := ⟨rfl, by decide⟩

theorem outsize_spelled : FileTree.SpelledIn outsize.tree := by decide

theorem outsize_name : outsizeName ≠ Path.dotDot ∧ Path.Writable outsizeName ∧
    FileTree.maxNameSize < FileTree.nameSize outsizeName := by
  decide +kernel

theorem outsize_plain : outsizePath.Plain := Path.plain_child outsizeRoot outsizeName ⟨rfl, by decide⟩ outsize_name.1

theorem outsize_absent : outsize.tree.find outsizePath.parts = .error .nameTooLong :=
  FileTree.find_long outsize.tree outsizeRoot.parts outsizeName _ outsize_plain.2 outsize_name.2.2 rfl

theorem outsize_refused : outsize.Refuses outsizePath :=
  ⟨Path.writable_child outsizeRoot outsizeName (by decide) outsize_name.2.1, Or.inr outsize_absent⟩

theorem long_name_unanswered :
    outsize.Sound ∧ FileTree.SpelledIn outsize.tree ∧ outsize.settle outsizePath = .ok outsizePath ∧
      Nearest outsize (startOf outsize outsizePath) (some outsizeRoot) ∧
      find outsize outsizePath = .error (.disk .nameTooLong outsizePath.text) := by
  have settled := outsize.settle_written outsizePath outsize_plain outsize_refused.1
  have above : outsizeRoot.Above outsizePath := ⟨rfl, [outsizeName], rfl⟩
  refine ⟨outsize_sound, outsize_spelled, settled, ?_, ?_⟩
  · rw [startOf, outsize_absent]
    refine ⟨above, ⟨[], rfl⟩, ?_⟩
    intro b aboveB marked
    rcases Path.above_cases b outsizePath aboveB with same | ⟨_, higher⟩
    · obtain ⟨entries, found⟩ := marked_found outsize outsizePath outsize_plain (same ▸ marked)
      cases found.symm.trans outsize_absent
    · exact higher
  · rw [find, directoryOf, settled, Failure.ok_bind, Host.isFile, outsize.look_refused outsizePath outsize_plain outsize_refused]
    rfl

end Project

end Linkage
