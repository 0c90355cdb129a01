import Linkage.Pool

set_option autoImplicit false

namespace Linkage

namespace Pool

variable {α β γ δ : Type}

def Completes (limit count : Nat) (moves : List Move) : Prop :=
  (run limit (fun task : Unit => task) (List.replicate count ()) moves).isFinished = true

-- Two pools in the same state of progress, whatever their outcomes are.
def Alike (pool : Pool β) (other : Pool δ) : Prop :=
  pool.taken = other.taken ∧ pool.running = other.running ∧
    pool.slots.map Option.isSome = other.slots.map Option.isSome

theorem alike_step (limit : Nat) (work : α → β) (tasks : List α) (pool : Pool β) (otherWork : γ → δ)
    (others : List γ) (other : Pool δ) (move : Move) (sameCount : tasks.length = others.length)
    (alike : Alike pool other) : Alike (step limit work tasks pool move) (step limit otherWork others other move) := by
  obtain ⟨taken, running, slots⟩ := alike
  cases move with
  | take =>
      by_cases room : pool.running.length < limit ∧ pool.taken < tasks.length
      · have otherRoom : other.running.length < limit ∧ other.taken < others.length := by
          rw [← running, ← taken, ← sameCount]
          exact room
        simp only [step, if_pos room, if_pos otherRoom]
        exact ⟨by rw [taken], by rw [running, taken], slots⟩
      · have otherRoom : ¬ (other.running.length < limit ∧ other.taken < others.length) := by
          rw [← running, ← taken, ← sameCount]
          exact room
        simp only [step, if_neg room, if_neg otherRoom]
        exact ⟨taken, running, slots⟩
  | finish task =>
      by_cases busy : task ∈ pool.running
      · have otherBusy : task ∈ other.running := running ▸ busy
        simp only [step, if_pos busy, if_pos otherBusy]
        by_cases inside : task < tasks.length
        · have otherInside : task < others.length := sameCount ▸ inside
          rw [List.getElem?_eq_getElem inside, List.getElem?_eq_getElem otherInside]
          refine ⟨taken, by rw [running], ?_⟩
          rw [List.map_set, List.map_set, slots]
          rfl
        · have otherInside : others.length ≤ task := sameCount ▸ Nat.le_of_not_lt inside
          rw [List.getElem?_eq_none (Nat.le_of_not_lt inside), List.getElem?_eq_none otherInside]
          exact ⟨taken, running, slots⟩
      · have otherBusy : ¬ task ∈ other.running := running ▸ busy
        simp only [step, if_neg busy, if_neg otherBusy]
        exact ⟨taken, running, slots⟩

theorem alike_run (limit : Nat) (work : α → β) (tasks : List α) (otherWork : γ → δ) (others : List γ)
    (moves : List Move) (sameCount : tasks.length = others.length) :
    Alike (run limit work tasks moves) (run limit otherWork others moves) := by
  have start : Alike (initial tasks.length : Pool β) (initial others.length : Pool δ) := by
    simp [Alike, initial, sameCount]
  -- The induction is on the moves, from any two pools that are alike and not only from new ones.
  rw [run, run]
  generalize initial tasks.length = pool at start ⊢
  generalize initial others.length = other at start ⊢
  induction moves generalizing pool other with
  | nil => exact start
  | cons move moves ih => exact ih _ _ (alike_step limit work tasks pool otherWork others other move sameCount start)

theorem finished_of_alike (pool : Pool β) (other : Pool δ) (alike : Alike pool other) :
    pool.isFinished = other.isFinished := by
  have same := congrArg (List.all · id) alike.2.2
  simpa [isFinished, List.all_map] using same

theorem outcomes_of_completes (limit : Nat) (moves : List Move) (work : α → β) (tasks : List α)
    (completes : Completes limit tasks.length moves) : (run limit work tasks moves).outcomes = tasks.map work := by
  have alike := alike_run limit work tasks (fun task : Unit => task) (List.replicate tasks.length ()) moves (by simp)
  apply outcomes_eq_map
  rw [finished_of_alike _ _ alike]
  exact completes

def halfway (done left : Nat) : Pool Unit := ⟨done, [], List.replicate done (some ()) ++ List.replicate left none⟩

theorem halfway_slots (done left : Nat) :
    (halfway done (left + 1)).slots.set done (some ()) = (halfway (done + 1) left).slots := by
  simp only [halfway]
  rw [List.set_append_right done (some ()) (by simp), List.length_replicate, Nat.sub_self, List.replicate_succ,
    List.set_cons_zero, List.replicate_succ']
  simp

theorem halfway_step (limit done left : Nat) (room : 0 < limit) :
    [Move.take, .finish done].foldl (step limit (fun task => task) (List.replicate (done + (left + 1)) ()))
      (halfway done (left + 1)) = halfway (done + 1) left := by
  have more : (halfway done (left + 1)).running.length < limit ∧
      (halfway done (left + 1)).taken < (List.replicate (done + (left + 1)) ()).length := by
    simp [halfway, room]
  have present : (List.replicate (done + (left + 1)) ())[done]? = some () := by
    rw [List.getElem?_replicate, if_pos (by omega)]
  simp only [List.foldl_cons, List.foldl_nil, step, if_pos more, present, halfway_slots]
  simp [halfway]

theorem halfway_run (limit done left : Nat) (room : 0 < limit) :
    ((List.range done).flatMap fun task => [Move.take, .finish task]).foldl
      (step limit (fun task => task) (List.replicate (done + left) ())) (initial (done + left)) = halfway done left := by
  induction done generalizing left with
  | zero => simp [initial, halfway]
  | succ done ih =>
      have whole : done + 1 + left = done + (left + 1) := by omega
      rw [List.range_succ, List.flatMap_append, List.foldl_append, whole, ih (left + 1)]
      exact halfway_step limit done left room

theorem one_by_one_completes (limit count : Nat) (room : 0 < limit) : Completes limit count (oneByOne count) := by
  have finished := halfway_run limit count 0 room
  simp only [Nat.add_zero] at finished
  simp only [Completes, run, oneByOne, List.length_replicate, finished]
  simp [isFinished, halfway]

end Pool

end Linkage
