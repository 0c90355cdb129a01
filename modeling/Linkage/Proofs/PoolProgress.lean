import Linkage.Proofs.PoolRun

set_option autoImplicit false

namespace Linkage

namespace Pool

variable {α β : Type}

def Possible (limit count : Nat) (pool : Pool β) : Move → Prop
  | .take => pool.running.length < limit ∧ pool.taken < count
  | .finish task => task ∈ pool.running

def Exhausted (limit count : Nat) (pool : Pool β) : Prop := ∀ move, ¬ Possible limit count pool move

-- The moves for a number of tasks leave nothing to do, whatever the tasks are.
def Exhausts (limit count : Nat) (moves : List Move) : Prop :=
  Exhausted limit count (run limit (fun task : Unit => task) (List.replicate count ()) moves)

-- No more tasks in progress than the limit allows, none of them still to be taken up, and every
-- task that was taken up either in progress or finished.
structure Orderly (limit count : Nat) (pool : Pool β) : Prop where
  size : pool.slots.length = count
  bounded : pool.taken ≤ count
  limited : pool.running.length ≤ limit
  started : ∀ task ∈ pool.running, task < pool.taken
  settled : ∀ task < pool.taken, task ∈ pool.running ∨ ∃ b, pool.slots[task]? = some (some b)

theorem orderly_initial (limit count : Nat) : Orderly limit count (initial count : Pool β) where
  size := by simp [initial]
  bounded := Nat.zero_le count
  limited := Nat.zero_le limit
  started := by simp [initial]
  settled := by simp [initial]

theorem orderly_take (limit count : Nat) (pool : Pool β) (orderly : Orderly limit count pool)
    (room : pool.running.length < limit) (more : pool.taken < count) :
    Orderly limit count { pool with taken := pool.taken + 1, running := pool.running ++ [pool.taken] } where
  size := orderly.size
  bounded := more
  limited := by
    rw [List.length_append, List.length_singleton]
    exact room
  started := by
    intro task busy
    rcases List.mem_append.mp busy with before | fresh
    · exact Nat.lt_succ_of_lt (orderly.started task before)
    · have same : task = pool.taken := by simpa using fresh
      exact same ▸ Nat.lt_succ_self task
  settled := by
    intro task begun
    by_cases fresh : task = pool.taken
    · exact Or.inl (by simp [fresh])
    · have earlier : task < pool.taken := by
        have below : task < pool.taken + 1 := begun
        omega
      rcases orderly.settled task earlier with busy | done
      · exact Or.inl (List.mem_append_left _ busy)
      · exact Or.inr done

theorem orderly_finish (limit count : Nat) (pool : Pool β) (task : Nat) (outcome : β)
    (orderly : Orderly limit count pool) (inside : task < count) :
    Orderly limit count
      { pool with running := pool.running.erase task, slots := pool.slots.set task (some outcome) } where
  size := by simpa using orderly.size
  bounded := orderly.bounded
  limited := Nat.le_trans List.length_erase_le orderly.limited
  started := fun other busy => orderly.started other (List.mem_of_mem_erase busy)
  settled := by
    intro other begun
    by_cases same : task = other
    · have held : task < pool.slots.length := orderly.size ▸ inside
      exact Or.inr ⟨outcome, by rw [← same]; simp [held]⟩
    · rcases orderly.settled other begun with busy | ⟨b, done⟩
      · exact Or.inl ((List.mem_erase_of_ne (Ne.symm same)).mpr busy)
      · exact Or.inr ⟨b, by rw [List.getElem?_set_ne same]; exact done⟩

theorem orderly_step (limit : Nat) (work : α → β) (tasks : List α) (pool : Pool β) (move : Move)
    (orderly : Orderly limit tasks.length pool) : Orderly limit tasks.length (step limit work tasks pool move) := by
  cases move with
  | take =>
      by_cases room : pool.running.length < limit ∧ pool.taken < tasks.length
      · rw [step, if_pos room]
        exact orderly_take limit tasks.length pool orderly room.1 room.2
      · rw [step, if_neg room]
        exact orderly
  | finish task =>
      by_cases busy : task ∈ pool.running
      · have inside : task < tasks.length := Nat.lt_of_lt_of_le (orderly.started task busy) orderly.bounded
        rw [step, if_pos busy, List.getElem?_eq_getElem inside]
        exact orderly_finish limit tasks.length pool task _ orderly inside
      · rw [step, if_neg busy]
        exact orderly

theorem orderly_run (limit : Nat) (work : α → β) (tasks : List α) (moves : List Move) :
    Orderly limit tasks.length (run limit work tasks moves) := by
  have start : Orderly limit tasks.length (initial tasks.length : Pool β) := orderly_initial limit tasks.length
  rw [run]
  generalize initial tasks.length = pool at start ⊢
  induction moves generalizing pool with
  | nil => exact start
  | cons move moves ih => exact ih _ (orderly_step limit work tasks pool move start)

-- A worker is always free when nothing is in progress, so an exhausted pool has taken up every task.
theorem exhausted_finished (limit count : Nat) (pool : Pool β) (room : 0 < limit) (orderly : Orderly limit count pool)
    (exhausted : Exhausted limit count pool) : pool.isFinished = true := by
  have idle : pool.running = [] := by
    apply List.eq_nil_iff_forall_not_mem.mpr
    intro task busy
    exact exhausted (.finish task) busy
  have all : count ≤ pool.taken := by
    apply Nat.le_of_not_lt
    intro more
    exact exhausted .take ⟨by rw [idle]; exact room, more⟩
  rw [isFinished, List.all_eq_true]
  intro slot member
  obtain ⟨task, inside, holds⟩ := List.getElem_of_mem member
  have begun : task < pool.taken := by
    have size := orderly.size
    omega
  rcases orderly.settled task begun with busy | ⟨b, done⟩
  · rw [idle] at busy
    contradiction
  · rw [List.getElem?_eq_getElem inside, holds] at done
    cases done
    rfl

theorem exhausts_completes (limit count : Nat) (moves : List Move) (room : 0 < limit)
    (exhausts : Exhausts limit count moves) : Completes limit count moves := by
  have orderly := orderly_run limit (fun task : Unit => task) (List.replicate count ()) moves
  rw [List.length_replicate] at orderly
  exact exhausted_finished limit count _ room orderly exhausts

theorem one_by_one_exhausts (limit count : Nat) (room : 0 < limit) : Exhausts limit count (oneByOne count) := by
  have ended := halfway_run limit count 0 room
  simp only [Nat.add_zero] at ended
  rw [Exhausts, run, oneByOne, List.length_replicate, ended]
  intro move possible
  cases move with
  | take => exact Nat.lt_irrefl count possible.2
  | finish task => cases possible

-- How many moves a pool has before it: two for a task that waits, one for a task in progress.
def left (count : Nat) (pool : Pool β) : Nat := 2 * (count - pool.taken) + pool.running.length

theorem left_step (limit : Nat) (work : α → β) (tasks : List α) (pool : Pool β) (move : Move)
    (orderly : Orderly limit tasks.length pool) (possible : Possible limit tasks.length pool move) :
    left tasks.length (step limit work tasks pool move) + 1 = left tasks.length pool := by
  cases move with
  | take =>
      have room : pool.running.length < limit ∧ pool.taken < tasks.length := possible
      rw [step, if_pos room]
      simp only [left, List.length_append, List.length_singleton]
      omega
  | finish task =>
      have busy : task ∈ pool.running := possible
      have inside : task < tasks.length := Nat.lt_of_lt_of_le (orderly.started task busy) orderly.bounded
      have inhabited := List.length_pos_of_mem busy
      rw [step, if_pos busy, List.getElem?_eq_getElem inside]
      simp only [left, List.length_erase_of_mem busy]
      omega

theorem exhausts_from (limit count : Nat) (begun : List Move) : ∃ rest, Exhausts limit count (begun ++ rest) := by
  -- The induction is on the moves that are left after those that were made.
  generalize moves : left count (run limit (fun task : Unit => task) (List.replicate count ()) begun) = ahead
  induction ahead using Nat.strongRecOn generalizing begun with
  | _ ahead ih =>
      by_cases exhausted : Exhausts limit count begun
      · exact ⟨[], by rw [List.append_nil]; exact exhausted⟩
      · obtain ⟨move, possible⟩ : ∃ move,
            Possible limit count (run limit (fun task : Unit => task) (List.replicate count ()) begun) move := by
          simpa [Exhausts, Exhausted] using exhausted
        have orderly := orderly_run limit (fun task : Unit => task) (List.replicate count ()) begun
        have nearer := left_step limit (fun task : Unit => task) (List.replicate count ()) _ move orderly
          (by rw [List.length_replicate]; exact possible)
        have onward : run limit (fun task : Unit => task) (List.replicate count ()) (begun ++ [move]) =
            step limit (fun task : Unit => task) (List.replicate count ())
              (run limit (fun task : Unit => task) (List.replicate count ()) begun) move := by
          rw [run, List.foldl_append]
          rfl
        rw [List.length_replicate, ← onward, moves] at nearer
        obtain ⟨rest, through⟩ := ih _ (by omega) (begun ++ [move]) rfl
        exact ⟨move :: rest, by simpa using through⟩

end Pool

end Linkage
