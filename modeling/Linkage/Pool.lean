set_option autoImplicit false

namespace Linkage

structure Pool (β : Type) where
  taken : Nat
  running : List Nat
  slots : List (Option β)

namespace Pool

variable {α β : Type}

inductive Move where
  | take
  | finish (task : Nat)
deriving DecidableEq

abbrev Schedule := Nat → List Move

def initial (count : Nat) : Pool β := ⟨0, [], List.replicate count none⟩

-- One move; a move that is not possible changes nothing.
def step (limit : Nat) (work : α → β) (tasks : List α) (pool : Pool β) : Move → Pool β
  | .take =>
    if pool.running.length < limit ∧ pool.taken < tasks.length then
      { pool with taken := pool.taken + 1, running := pool.running ++ [pool.taken] }
    else pool
  | .finish task =>
    if task ∈ pool.running then
      match tasks[task]? with
      | some a =>
        { pool with
          running := pool.running.erase task
          slots := pool.slots.set task (some (work a)) }
      | none => pool
    else pool

def run (limit : Nat) (work : α → β) (tasks : List α) (moves : List Move) : Pool β :=
  moves.foldl (step limit work tasks) (initial tasks.length)

def isFinished (pool : Pool β) : Bool := pool.slots.all Option.isSome

def outcomes (pool : Pool β) : List β := pool.slots.filterMap id

def oneByOne : Schedule := fun count =>
  (List.range count).flatMap fun task => [.take, .finish task]

def Faithful (work : α → β) (tasks : List α) (pool : Pool β) : Prop :=
  pool.slots.length = tasks.length ∧
    ∀ (i : Nat) (b : β), pool.slots[i]? = some (some b) → tasks[i]?.map work = some b

theorem faithful_initial (work : α → β) (tasks : List α) :
    Faithful work tasks (initial tasks.length) := by
  refine ⟨by simp [initial], ?_⟩
  intro i b found
  simp only [initial] at found
  have member := List.mem_of_getElem? found
  simp at member

theorem faithful_step {limit : Nat} {work : α → β} {tasks : List α} {pool : Pool β}
    (faithful : Faithful work tasks pool) (move : Move) :
    Faithful work tasks (step limit work tasks pool move) := by
  cases move with
  | take =>
    simp only [step]
    split
    · exact faithful
    · exact faithful
  | finish task =>
    simp only [step]
    split
    · split
      · rename_i a present
        refine ⟨by simpa using faithful.1, ?_⟩
        intro i b found
        by_cases same : task = i
        · subst same
          have inside : task < pool.slots.length := by
            rw [faithful.1]
            exact (List.getElem?_eq_some_iff.1 present).1
          have held : (pool.slots.set task (some (work a)))[task]? = some (some (work a)) := by
            simp [inside]
          have equal : work a = b := by
            rw [held] at found
            simpa using found
          simp [present, equal]
        · have kept : (pool.slots.set task (some (work a)))[i]? = pool.slots[i]? :=
            List.getElem?_set_ne same
          exact faithful.2 i b (kept ▸ found)
      · exact faithful
    · exact faithful

theorem faithful_run (limit : Nat) (work : α → β) (tasks : List α) (moves : List Move) :
    Faithful work tasks (run limit work tasks moves) := by
  unfold run
  generalize start : initial tasks.length = pool
  have faithful : Faithful work tasks pool := start ▸ faithful_initial work tasks
  clear start
  induction moves generalizing pool with
  | nil => exact faithful
  | cons move moves ih => exact ih _ (faithful_step faithful move)

theorem outcomes_eq_map {limit : Nat} {work : α → β} {tasks : List α} {moves : List Move}
    (finished : (run limit work tasks moves).isFinished = true) :
    (run limit work tasks moves).outcomes = tasks.map work := by
  have faithful := faithful_run limit work tasks moves
  generalize run limit work tasks moves = pool at finished faithful
  obtain ⟨size, slots⟩ := faithful
  have exact_slots : pool.slots = tasks.map fun a => some (work a) := by
    apply List.ext_getElem?
    intro i
    by_cases inside : i < pool.slots.length
    · have full : pool.slots[i].isSome = true := by
        simp only [isFinished, List.all_eq_true] at finished
        exact finished _ (List.getElem_mem inside)
      obtain ⟨b, holds⟩ := Option.isSome_iff_exists.1 full
      have found : pool.slots[i]? = some (some b) := by
        rw [List.getElem?_eq_getElem inside, holds]
      have task := slots i b found
      rw [found, List.getElem?_map]
      cases present : tasks[i]? with
      | none => simp [present] at task
      | some a => simpa [present] using task.symm
    · have beyond : tasks.length ≤ i := by omega
      simp [List.getElem?_eq_none_iff.2 (Nat.le_of_not_lt inside), beyond]
  rw [outcomes, exact_slots, List.filterMap_map]
  change List.filterMap (some ∘ work) tasks = _
  rw [List.filterMap_eq_map]

end Pool

end Linkage
