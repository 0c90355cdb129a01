import Linkage.Proofs.CookedLiterals

set_option autoImplicit false

namespace Linkage

namespace Literal

namespace Octal

def char (d : Fin 8) : Char := Char.ofNat (48 + d.val)

def number (digits : List (Fin 8)) : Nat := digits.foldl (fun n d => n * 8 + d.val) 0

def cutAfter (width : Nat) (digits : List (Fin 8)) : Text :=
  pointText (number (digits.take width)) ++ Text.ofChars ((digits.drop width).map char)

def startsLow (digits : List (Fin 8)) : Bool := digits.head?.any (·.val ≤ 3)

-- An escape takes up to three digits if the first is at most 3, and else up to two.
def meaning (digits : List (Fin 8)) : Text := cutAfter (if startsLow digits then 3 else 2) digits

-- The node of the escape covers up to three digits. Those after them begin a plain stretch, with
-- whatever follows the run; there is none if nothing is left for it.
def stretches (digits : List (Fin 8)) (tail : List Char) : List Stretch :=
  ⟨true, '\\' :: (digits.take 3).map char⟩ ::
    if (digits.drop 3).map char ++ tail = [] then [] else [⟨false, (digits.drop 3).map char ++ tail⟩]

theorem char_octal (d : Fin 8) : isOctal (.scalar (char d)) = true ∧ CodePoint.val (.scalar (char d)) - 48 = d.val := by
  revert d
  decide

theorem octal_value_chars (digits : List (Fin 8)) : octalValue (Text.ofChars (digits.map char)) = number digits := by
  simp only [octalValue, number, Text.ofChars, List.map_map, List.foldl_map, Function.comp_apply, char_octal]

theorem all_octal (digits : List (Fin 8)) : (Text.ofChars (digits.map char)).all isOctal = true := by
  simp only [Text.ofChars, List.map_map, List.all_map, List.all_eq_true, Function.comp_apply, char_octal, implies_true]

theorem number_short (digits : List (Fin 8)) (short : digits.length ≤ 3) : number digits ≤ 0x1FF := by
  rcases digits with _ | ⟨a, _ | ⟨b, _ | ⟨c, _ | ⟨d, rest⟩⟩⟩⟩
  · exact Nat.zero_le _
  · have first := a.isLt
    simp only [number, List.foldl_cons, List.foldl_nil]
    omega
  · have both := And.intro a.isLt b.isLt
    simp only [number, List.foldl_cons, List.foldl_nil]
    omega
  · have three := And.intro a.isLt (And.intro b.isLt c.isLt)
    simp only [number, List.foldl_cons, List.foldl_nil]
    omega
  · simp only [List.length_cons] at short
    omega

theorem unmarked (d : Fin 8) (rest : Text) :
    braced? (.scalar (char d) :: rest) = none ∧ marked? (.scalar (char d) :: rest) = none := by
  have other : ∀ d : Fin 8, (CodePoint.scalar (char d)).is 'u' = false ∧ (CodePoint.scalar (char d)).is 'x' = false := by
    decide
  cases rest with
  | nil => exact ⟨rfl, rfl⟩
  | cons next rest => simp [braced?, marked?, other d]

theorem escape_octal (digits : List (Fin 8)) (present : digits ≠ []) (short : digits.length ≤ 3) :
    escape (Text.ofChars ('\\' :: digits.map char)) = .ok (pointText (number digits)) := by
  change escapeBody (Text.ofChars (digits.map char)) = _
  have octal := all_octal digits
  have counted := octal_value_chars digits
  have inRange := Nat.le_trans (number_short digits short) (by decide : 0x1FF ≤ 0x10FFFF)
  cases digits with
  | nil => contradiction
  | cons d digits =>
      have written : Text.ofChars ((d :: digits).map char) = .scalar (char d) :: Text.ofChars (digits.map char) := rfl
      obtain ⟨unbraced, unmarked⟩ := unmarked d (Text.ofChars (digits.map char))
      rw [written] at octal counted ⊢
      simp only [escapeBody, unbraced, unmarked, List.isEmpty_cons, Bool.not_false, octal, Bool.and_true, if_true, counted]
      exact point_of_number _ inRange

theorem read_plain (chars : List Char) :
    Stretch.readAll (if chars = [] then [] else [⟨false, chars⟩]) = .ok (Text.ofChars chars) := by
  split
  · rename_i empty
    rw [empty]
    rfl
  · exact congrArg Except.ok (List.append_nil _)

theorem read_stretches (digits : List (Fin 8)) (present : digits ≠ []) (tail : List Char) :
    Stretch.readAll (stretches digits tail) = .ok (cutAfter 3 digits ++ Text.ofChars tail) := by
  have first : Stretch.read ⟨true, '\\' :: (digits.take 3).map char⟩ = .ok (pointText (number (digits.take 3))) :=
    escape_octal (digits.take 3) (by simp [present]) (List.length_take_le 3 digits)
  have joined : Text.ofChars ((digits.drop 3).map char ++ tail) =
      Text.ofChars ((digits.drop 3).map char) ++ Text.ofChars tail := List.map_append
  rw [stretches, Stretch.readAll, first, Failure.ok_bind, read_plain, joined, Failure.ok_bind, cutAfter,
    List.append_assoc]
  rfl

theorem cut_length (width : Nat) (digits : List (Fin 8)) (narrow : width ≤ 3) :
    (cutAfter width digits).length = 1 + (digits.length - width) := by
  have short : (digits.take width).length ≤ 3 := Nat.le_trans (List.length_take_le width digits) narrow
  obtain ⟨point, found⟩ := point_found (number (digits.take width))
    (Nat.le_trans (number_short _ short) (by decide))
  simp only [cutAfter, pointText, found, Option.toList_some, List.length_append, List.length_singleton, Text.ofChars,
    List.length_map, List.length_drop]

theorem cut_means_iff (digits : List (Fin 8)) :
    cutAfter 3 digits = meaning digits ↔ digits.length ≤ 2 ∨ startsLow digits = true := by
  rw [meaning]
  by_cases low : startsLow digits = true
  · rw [if_pos low]
    exact iff_of_true rfl (Or.inr low)
  · rw [if_neg low]
    constructor
    · -- A code point from three digits leaves one digit less to stand for itself.
      intro same
      have lengths := congrArg List.length same
      rw [cut_length 3 digits (by decide), cut_length 2 digits (by decide)] at lengths
      omega
    · rintro (short | high)
      · rw [cutAfter, cutAfter, List.take_of_length_le short, List.take_of_length_le (Nat.le_succ_of_le short),
          List.drop_of_length_le short, List.drop_of_length_le (Nat.le_succ_of_le short)]
      · exact absurd high low

structure Written where
  before : List Part
  digits : List (Fin 8)
  present : digits ≠ []
  tail : List Char
  after : List Part
  front : Bytes
  back : Bytes
  node : Node
  laid : Laid front.length (before.map Part.stretch ++ (stretches digits tail ++ after.map Part.stretch)) node.children

namespace Written

def source (w : Written) : Bytes :=
  w.front ++ Stretch.bytesOf (w.before.map Part.stretch ++ (stretches w.digits w.tail ++ w.after.map Part.stretch)) ++
    w.back

def around (w : Written) (run : Text) : Text :=
  Part.meaningOf w.before ++ (run ++ Text.ofChars w.tail ++ Part.meaningOf w.after)

theorem around_inj (w : Written) (one two : Text) : w.around one = w.around two ↔ one = two := by
  rw [around, around, List.append_cancel_left_eq, List.append_assoc, List.append_assoc, List.append_cancel_right_eq]

theorem value_cut (w : Written) : value w.node w.source = .ok (w.around (cutAfter 3 w.digits)) := by
  rw [value, Node.namedChildren, source, pieces_laid _ _ _ w.laid w.front w.back rfl]
  exact Stretch.read_all_append _ _ _ _ (Part.read_all_parts w.before)
    (Stretch.read_all_append _ _ _ _ (read_stretches w.digits w.present w.tail) (Part.read_all_parts w.after))

end Written

theorem octal_run_value (w : Written) :
    value w.node w.source = .ok (w.around (cutAfter 3 w.digits)) ∧
    (value w.node w.source = .ok (w.around (meaning w.digits)) ↔ w.digits.length ≤ 2 ∨ startsLow w.digits = true) := by
  refine ⟨w.value_cut, ?_⟩
  rw [w.value_cut, Except.ok.injEq, w.around_inj, cut_means_iff]

-- `"\400"`
def fourHundred : Written where
  before := []
  digits := [4, 0, 0]
  present := by simp
  tail := []
  after := []
  front := [34]
  back := [34]
  node := ⟨"string", 0, 6, true, none, false, [quoteAt 0, leafAt "escape_sequence" 1 5, quoteAt 5]⟩
  laid := .other _ _ _ _ (by decide) (.stretch _ _ _ _ _ rfl rfl rfl rfl (.other _ _ _ _ (by decide) (.nil _)))

theorem wide_octal_escape :
    meaning fourHundred.digits = Text.ofString " 0" ∧
      value fourHundred.node fourHundred.source = .ok [.scalar (Char.ofNat 0x100)] ∧
      value fourHundred.node fourHundred.source ≠ .ok (fourHundred.around (meaning fourHundred.digits)) := by
  have read : value fourHundred.node fourHundred.source = .ok [.scalar (Char.ofNat 0x100)] :=
    fourHundred.value_cut.trans (congrArg Except.ok (by decide))
  refine ⟨by decide, read, ?_⟩
  rw [read]
  intro same
  exact absurd (Except.ok.inj same) (by decide)

end Octal

end Literal

end Linkage
