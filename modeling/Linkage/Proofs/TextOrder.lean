import Linkage.Text

set_option autoImplicit false

namespace Linkage

namespace CodePoint

theorem val_injective (a b : CodePoint) (same : a.val = b.val) : a = b := by
  have found := congrArg ofNat? same
  rw [ofNat?_val, ofNat?_val] at found
  exact Option.some.inj found

end CodePoint

namespace Text

def Before (a b : Text) : Prop := le a b = true ∧ a ≠ b

theorem le_cons_iff (a b : CodePoint) (s t : Text) :
    le (a :: s) (b :: t) = true ↔ a.val < b.val ∨ a = b ∧ le s t = true := by
  simp only [le, Bool.or_eq_true, Bool.and_eq_true, decide_eq_true_eq, beq_iff_eq]
  constructor
  · rintro (less | ⟨same, rest⟩)
    · exact Or.inl less
    · exact Or.inr ⟨CodePoint.val_injective a b same, rest⟩
  · rintro (less | ⟨same, rest⟩)
    · exact Or.inl less
    · exact Or.inr ⟨congrArg CodePoint.val same, rest⟩

theorem le_total (s t : Text) : (le s t || le t s) = true := by
  rw [Bool.or_eq_true]
  induction s generalizing t with
  | nil => exact Or.inl rfl
  | cons a s ih =>
      cases t with
      | nil => exact Or.inr rfl
      | cons b t =>
          rw [le_cons_iff, le_cons_iff]
          rcases Nat.lt_trichotomy a.val b.val with less | same | more
          · exact Or.inl (Or.inl less)
          · have equal := CodePoint.val_injective a b same
            rcases ih t with rest | rest
            · exact Or.inl (Or.inr ⟨equal, rest⟩)
            · exact Or.inr (Or.inr ⟨equal.symm, rest⟩)
          · exact Or.inr (Or.inl more)

theorem le_trans (s t u : Text) (first : le s t = true) (second : le t u = true) : le s u = true := by
  induction s generalizing t u with
  | nil => rfl
  | cons a s ih =>
      cases t with
      | nil => contradiction
      | cons b t =>
          cases u with
          | nil => contradiction
          | cons c u =>
              rw [le_cons_iff] at first second ⊢
              rcases first with less | ⟨same, rest⟩
              · rcases second with next | ⟨equal, _⟩
                · exact Or.inl (Nat.lt_trans less next)
                · exact Or.inl (equal ▸ less)
              · rcases second with next | ⟨equal, later⟩
                · exact Or.inl (same ▸ next)
                · exact Or.inr ⟨same.trans equal, ih t u rest later⟩

theorem le_antisymm (s t : Text) (first : le s t = true) (second : le t s = true) : s = t := by
  induction s generalizing t with
  | nil =>
      cases t with
      | nil => rfl
      | cons b t => contradiction
  | cons a s ih =>
      cases t with
      | nil => contradiction
      | cons b t =>
          rw [le_cons_iff] at first second
          rcases first with less | ⟨same, rest⟩
          · rcases second with more | ⟨equal, _⟩
            · exact absurd more (Nat.lt_asymm less)
            · exact absurd (equal ▸ less) (Nat.lt_irrefl _)
          · rcases second with more | ⟨_, back⟩
            · exact absurd (same ▸ more) (Nat.lt_irrefl _)
            · rw [same, ih t rest back]

theorem le_append (lead s t : Text) : le (lead ++ s) (lead ++ t) = le s t := by
  induction lead with
  | nil => rfl
  | cons a lead ih => simp [le, ih]

end Text

end Linkage
