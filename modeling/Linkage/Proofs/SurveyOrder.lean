import Linkage.Proofs.PoolProgress
import Linkage.Proofs.SurveyPartition

set_option autoImplicit false

namespace Linkage

namespace Survey

-- The moves that are made for the files of a survey leave nothing to do. Where a survey uses no
-- pool, nothing is asked of them.
def SeenThrough (host : Host) (schedule : Pool.Schedule) (plan : Plan) : Prop :=
  ∀ place b files, host.settle plan.path = .ok place → brief host plan place = .ok b →
    collect host place b.project b.rules b.extensions = .ok files → 1 < b.jobs → 1 < files.length →
      Pool.Exhausts b.jobs.toNat files.length (schedule files.length)

def inTurn (host : Host) (plan : Plan) : Except Failure Survey := do
  let place ← host.settle plan.path
  let b ← brief host plan place
  let files ← collect host place b.project b.rules b.extensions
  let root := if ← host.isDirectory place then place else place.parent
  return ⟨root, files.map (entryFor host b.resolver root)⟩

theorem load_all_through (schedule : Pool.Schedule) (jobs : Int) (load : Path → SurveyEntry) (files : List Path)
    (through : 1 < jobs → 1 < files.length → Pool.Exhausts jobs.toNat files.length (schedule files.length)) :
    loadAll schedule jobs load files = files.map load := by
  by_cases several : 1 < jobs ∧ 1 < files.length
  · have room : 0 < jobs.toNat := by omega
    rw [loadAll, if_pos several]
    exact Pool.outcomes_of_completes jobs.toNat (schedule files.length) load files
      (Pool.exhausts_completes _ _ _ room (through several.1 several.2))
  · rw [loadAll, if_neg several]

theorem run_in_turn (host : Host) (schedule : Pool.Schedule) (plan : Plan) (through : SeenThrough host schedule plan) :
    run host schedule plan = inTurn host plan := by
  cases settled : host.settle plan.path with
  | error failure => rw [run, inTurn, settled, Failure.error_bind, Failure.error_bind]
  | ok place =>
      rw [run_settled host schedule plan place settled, inTurn, settled, Failure.ok_bind]
      cases briefed : brief host plan place with
      | error failure => rw [Failure.error_bind, Failure.error_bind]
      | ok b =>
          rw [Failure.ok_bind, Failure.ok_bind]
          cases collected : collect host place b.project b.rules b.extensions with
          | error failure => rw [Failure.error_bind, Failure.error_bind]
          | ok files =>
              have same (root : Path) := load_all_through schedule b.jobs (entryFor host b.resolver root) files
                (through place b files settled briefed collected)
              simp only [Failure.ok_bind, same]

theorem brief_with_jobs (host : Host) (plan : Plan) (place : Path) (b : Brief) (fewer : Int)
    (briefed : brief host plan place = .ok b) :
    brief host { plan with jobs := some fewer } place = .ok { b with jobs := fewer } := by
  obtain ⟨project, rooted, rest⟩ := Failure.bind_ok _ _ _ briefed
  obtain ⟨settings, read, rest⟩ := Failure.bind_ok _ _ _ rest
  obtain ⟨walker, found, rest⟩ := Failure.bind_ok _ _ _ rest
  obtain ⟨jobs, _, rest⟩ := Failure.bind_ok _ _ _ rest
  have read' : settingsFor host { plan with jobs := some fewer } project = .ok settings := read
  rw [brief, rooted, Failure.ok_bind, read', Failure.ok_bind, found, Failure.ok_bind]
  obtain ⟨resolver, resolving, rest⟩ := Failure.bind_ok _ _ _ rest
  obtain ⟨rules, ruled, rest⟩ := Failure.bind_ok _ _ _ rest
  obtain ⟨extensions, listed, rest⟩ := Failure.bind_ok _ _ _ rest
  have resolving' : resolverFor { plan with jobs := some fewer } settings = .ok resolver := resolving
  rw [jobsFor, Failure.ok_bind, resolving', Failure.ok_bind, ruled, Failure.ok_bind, listed, Failure.ok_bind]
  cases rest
  rfl

theorem in_turn_with_jobs (host : Host) (plan : Plan) (place : Path) (b : Brief) (fewer : Int)
    (settled : host.settle plan.path = .ok place) (briefed : brief host plan place = .ok b) :
    inTurn host { plan with jobs := some fewer } = inTurn host plan := by
  rw [inTurn, inTurn, settled, Failure.ok_bind, Failure.ok_bind, brief_with_jobs host plan place b fewer briefed,
    briefed, Failure.ok_bind, Failure.ok_bind]

theorem seen_through_alone (host : Host) (other : Pool.Schedule) (plan : Plan) (place : Path) (b : Brief) (fewer : Int)
    (settled : host.settle plan.path = .ok place) (briefed : brief host plan place = .ok b) (alone : fewer ≤ 1) :
    SeenThrough host other { plan with jobs := some fewer } := by
  intro place' b' files settled' briefed' _ several
  have same : place = place' := Except.ok.inj (settled.symm.trans settled')
  rw [← same, brief_with_jobs host plan place b fewer briefed] at briefed'
  cases briefed'
  exact absurd several (Int.not_lt.mpr alone)

theorem seen_through_one_by_one (host : Host) (plan : Plan) : SeenThrough host Pool.oneByOne plan := by
  intro place b files _ _ _ several _
  exact Pool.one_by_one_exhausts b.jobs.toNat files.length (by omega)

-- Only one brief belongs to a plan, so the moves are continued for its number of jobs.
theorem seen_through_from (host : Host) (plan : Plan) (begun : Pool.Schedule) :
    ∃ rest : Pool.Schedule, SeenThrough host (fun count => begun count ++ rest count) plan := by
  by_cases ready : ∃ place b, host.settle plan.path = .ok place ∧ brief host plan place = .ok b
  · obtain ⟨place, b, settled, briefed⟩ := ready
    have onward := fun count => Pool.exhausts_from b.jobs.toNat count (begun count)
    refine ⟨fun count => (onward count).choose, ?_⟩
    intro place' b' files settled' briefed' _ _ _
    have samePlace : place = place' := Except.ok.inj (settled.symm.trans settled')
    have sameBrief : b = b' := Except.ok.inj (briefed.symm.trans (samePlace ▸ briefed'))
    exact sameBrief ▸ (onward files.length).choose_spec
  · refine ⟨fun _ => [], ?_⟩
    intro place b _ settled briefed
    exact absurd ⟨place, b, settled, briefed⟩ ready

theorem survey_order_free (host : Host) (schedule : Pool.Schedule) (plan : Plan)
    (through : SeenThrough host schedule plan) :
    run host schedule plan = inTurn host plan ∧
    (∀ place b other fewer, host.settle plan.path = .ok place → brief host plan place = .ok b → fewer ≤ 1 →
      run host other { plan with jobs := some fewer } = run host schedule plan) ∧
    ∀ begun : Pool.Schedule, ∃ rest : Pool.Schedule, SeenThrough host (fun count => begun count ++ rest count) plan := by
  have ordered := run_in_turn host schedule plan through
  refine ⟨ordered, ?_, seen_through_from host plan⟩
  intro place b other fewer settled briefed alone
  rw [run_in_turn host other _ (seen_through_alone host other plan place b fewer settled briefed alone), ordered]
  exact in_turn_with_jobs host plan place b fewer settled briefed

-- Two workers that finish in the other order than they begin.
def crossed : Pool.Schedule := fun _ => [.take, .take, .finish 1, .finish 0]

theorem crossed_seen_through : SeenThrough twoFiles crossed twoFilesPlan := by
  intro place b files settled briefed collected _ _
  have same : twoFilesPlace = place := Except.ok.inj settled
  obtain ⟨b', briefed', jobs, collected'⟩ : ∃ b', brief twoFiles twoFilesPlan twoFilesPlace = .ok b' ∧ b'.jobs = 2 ∧
      collect twoFiles twoFilesPlace b'.project b'.rules b'.extensions =
        .ok (sorted [twoFilesPlace.child (Text.ofString "b.ts"),
          (twoFilesPlace.child (Text.ofString "a")).child (Text.ofString "c.js")]) := ⟨_, rfl, rfl, rfl⟩
  rw [← same] at briefed collected
  have sameBrief : b' = b := Except.ok.inj (briefed'.symm.trans briefed)
  rw [sameBrief] at jobs collected'
  have sameFiles := Except.ok.inj (collected'.symm.trans collected)
  have count : files.length = 2 := by
    rw [← sameFiles]
    exact List.length_mergeSort _
  rw [jobs, count]
  intro move possible
  cases move with
  | take => exact absurd possible.2 (by decide)
  | finish task => cases possible

theorem survey_order_free_crossed :
    (∃ b, brief twoFiles twoFilesPlan twoFilesPlace = .ok b ∧ b.jobs = 2) ∧
      SeenThrough twoFiles crossed twoFilesPlan ∧
      run twoFiles Pool.oneByOne { twoFilesPlan with jobs := some 1 } = run twoFiles crossed twoFilesPlan := by
  obtain ⟨b, briefed, jobs⟩ : ∃ b, brief twoFiles twoFilesPlan twoFilesPlace = .ok b ∧ b.jobs = 2 := ⟨_, rfl, rfl⟩
  have free := survey_order_free twoFiles crossed twoFilesPlan crossed_seen_through
  exact ⟨⟨b, briefed, jobs⟩, crossed_seen_through,
    free.2.1 twoFilesPlace b Pool.oneByOne 1 rfl briefed (Int.le_refl 1)⟩

end Survey

end Linkage
