set_option autoImplicit false

namespace Linkage

-- One code point: a Unicode scalar value, or the surrogate `0xD800 + offset`.
inductive CodePoint where
  | scalar (c : Char)
  | surrogate (offset : Fin 2048)
deriving DecidableEq

namespace CodePoint

instance : Inhabited CodePoint := ⟨.scalar ' '⟩

def val : CodePoint → Nat
  | scalar c => c.toNat
  | surrogate offset => 0xD800 + offset.val

def ofNat? (n : Nat) : Option CodePoint :=
  if h : 0xD800 ≤ n ∧ n < 0xE000 then
    some (.surrogate ⟨n - 0xD800, by omega⟩)
  else if n < 0x110000 then
    some (.scalar (Char.ofNat n))
  else
    none

theorem ofNat?_val (c : CodePoint) : ofNat? c.val = some c := by
  cases c with
  | scalar c =>
    have valid : c.toNat < 0xD800 ∨ 0xDFFF < c.toNat ∧ c.toNat < 0x110000 := c.valid
    have outside : ¬ (0xD800 ≤ c.toNat ∧ c.toNat < 0xE000) := by omega
    have below : c.toNat < 0x110000 := by omega
    simp [ofNat?, val, outside, below]
  | surrogate offset =>
    have bound := offset.isLt
    have inside : 0xD800 ≤ 0xD800 + offset.val ∧ 0xD800 + offset.val < 0xE000 := by omega
    simp [ofNat?, val, inside]

def is (p : CodePoint) (c : Char) : Bool := p == .scalar c

def replacement : CodePoint := .scalar (Char.ofNat 0xFFFD)

def hexValue? (p : CodePoint) : Option Nat :=
  let n := p.val
  if 48 ≤ n ∧ n ≤ 57 then some (n - 48)
  else if 65 ≤ n ∧ n ≤ 70 then some (n - 55)
  else if 97 ≤ n ∧ n ≤ 102 then some (n - 87)
  else none

def isAsciiDigit (p : CodePoint) : Bool := 48 ≤ p.val && p.val ≤ 57

end CodePoint

abbrev Text := List CodePoint

namespace Text

def ofChars (cs : List Char) : Text := cs.map .scalar

def ofString (s : String) : Text := ofChars s.toList

instance : Coe String Text := ⟨ofString⟩

def toDisplay (t : Text) : String :=
  String.ofList (t.map fun
    | .scalar c => c
    | .surrogate _ => Char.ofNat 0xFFFD)

def hasSurrogate (t : Text) : Bool :=
  t.any fun
    | .scalar _ => false
    | .surrogate _ => true

def le : Text → Text → Bool
  | [], _ => true
  | _ :: _, [] => false
  | a :: s, b :: t => a.val < b.val || (a.val == b.val && le s t)

def strip? : (lead : Text) → Text → Option Text
  | [], t => some t
  | _ :: _, [] => none
  | a :: lead, b :: t => if a = b then strip? lead t else none

theorem strip?_eq_some_iff {lead t rest : Text} : strip? lead t = some rest ↔ t = lead ++ rest := by
  induction lead generalizing t with
  | nil => simp [strip?]
  | cons a lead ih =>
    cases t with
    | nil => simp [strip?]
    | cons b t =>
      by_cases same : a = b
      · simp [strip?, same, ih]
      · simp only [strip?, same, if_false, List.cons_append, List.cons.injEq]
        constructor
        · intro h; cases h
        · intro h; exact absurd h.1.symm same

def startsWith (t lead : Text) : Bool := (strip? lead t).isSome

def splitOn (sep : CodePoint) : Text → List Text
  | [] => [[]]
  | c :: rest =>
    if c = sep then [] :: splitOn sep rest
    else match splitOn sep rest with
      | [] => [[c]]
      | piece :: pieces => (c :: piece) :: pieces

def join (sep : Text) : List Text → Text
  | [] => []
  | [piece] => piece
  | piece :: pieces => piece ++ sep ++ join sep pieces

theorem splitOn_ne_nil (sep : CodePoint) (t : Text) : splitOn sep t ≠ [] := by
  induction t with
  | nil => simp [splitOn]
  | cons c rest ih =>
    unfold splitOn
    split
    · simp
    · split <;> simp

theorem join_splitOn (sep : CodePoint) (t : Text) : join [sep] (splitOn sep t) = t := by
  induction t with
  | nil => rfl
  | cons c rest ih =>
    have some_piece := splitOn_ne_nil sep rest
    unfold splitOn
    split
    · rename_i same
      cases pieces : splitOn sep rest with
      | nil => exact absurd pieces some_piece
      | cons piece more =>
        rw [pieces] at ih
        simp [join, same, ih]
    · cases pieces : splitOn sep rest with
      | nil => exact absurd pieces some_piece
      | cons piece more =>
        rw [pieces] at ih
        cases more with
        | nil => simpa [join] using ih
        | cons next more => simpa [join] using ih

def ofNat (n : Nat) : Text := ofString (toString n)

def ofInt (n : Int) : Text :=
  if n < 0 then CodePoint.scalar '-' :: ofNat n.natAbs else ofNat n.natAbs

end Text

end Linkage
