import Linkage.Failure

set_option autoImplicit false

namespace Linkage

structure Traced (α : Type) where
  probes : List Text
  outcome : Except Failure α

namespace Traced

variable {α β γ : Type}

def pure (a : α) : Traced α := ⟨[], .ok a⟩

def fail (f : Failure) : Traced α := ⟨[], .error f⟩

-- Runs `f` on a result; after a failure nothing more is probed.
def bind (x : Traced α) (f : α → Traced β) : Traced β :=
  match x.outcome with
  | .ok a => ⟨x.probes ++ (f a).probes, (f a).outcome⟩
  | .error e => ⟨x.probes, .error e⟩

instance : Monad Traced where
  pure := pure
  bind := bind

def ofExcept (x : Except Failure α) : Traced α := ⟨[], x⟩

@[simp] theorem pure_bind (a : α) (f : α → Traced β) : bind (pure a) f = f a := by
  simp [bind, pure]

@[simp] theorem bind_pure (x : Traced α) : bind x pure = x := by
  cases x with
  | mk probes outcome => cases outcome <;> simp [bind, pure]

theorem bind_assoc (x : Traced α) (f : α → Traced β) (g : β → Traced γ) :
    bind (bind x f) g = bind x fun a => bind (f a) g := by
  cases x with
  | mk probes outcome =>
    cases outcome with
    | error e => rfl
    | ok a =>
      cases rest : f a with
      | mk more second => cases second <;> simp [bind, rest, List.append_assoc]

theorem bind_ok (x : Traced α) (f : α → Traced β) (a : α) (done : x.outcome = .ok a) :
    bind x f = ⟨x.probes ++ (f a).probes, (f a).outcome⟩ := by
  simp only [bind, done]

theorem bind_error (x : Traced α) (f : α → Traced β) (failure : Failure)
    (failed : x.outcome = .error failure) : bind x f = ⟨x.probes, .error failure⟩ := by
  simp only [bind, failed]

theorem bind_outcome_ok (x : Traced α) (f : α → Traced β) (b : β)
    (done : (bind x f).outcome = .ok b) : ∃ a, x.outcome = .ok a ∧ (f a).outcome = .ok b := by
  cases first : x.outcome with
  | error failure =>
    rw [bind_error x f failure first] at done
    cases done
  | ok a =>
    rw [bind_ok x f a first] at done
    exact ⟨a, rfl, done⟩

theorem bind_outcome_error (x : Traced α) (f : α → Traced β) (failure : Failure)
    (failed : (bind x f).outcome = .error failure) :
    x.outcome = .error failure ∧ (bind x f).probes = x.probes ∨
      ∃ a, x.outcome = .ok a ∧ (f a).outcome = .error failure := by
  cases first : x.outcome with
  | error fault =>
    rw [bind_error x f fault first] at failed ⊢
    cases failed
    exact Or.inl ⟨rfl, rfl⟩
  | ok a =>
    rw [bind_ok x f a first] at failed
    exact Or.inr ⟨a, rfl, failed⟩

end Traced

end Linkage
