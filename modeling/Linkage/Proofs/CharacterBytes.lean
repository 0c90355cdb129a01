import Linkage.Text.Utf8

set_option autoImplicit false

namespace Linkage

namespace Utf8

theorem between_iff (low high a : UInt8) :
    (low ≤ a && a ≤ high) = true ↔ low.toNat ≤ a.toNat ∧ a.toNat ≤ high.toNat := by
  simp [UInt8.le_iff_toNat_le]

theorem is_tail_iff (b : UInt8) : isTail b = true ↔ 0x80 ≤ b.toNat ∧ b.toNat ≤ 0xBF := between_iff 0x80 0xBF b

-- After the least lead byte the second must not be too small, and after one more the pair must not
-- reach too far: into the surrogates, or past the last code point.
theorem follows3_iff (a b : UInt8) : follows3 a b = true ↔
    (0x80 ≤ b.toNat ∧ b.toNat ≤ 0xBF) ∧ (a.toNat = 0xE0 → 0xA0 ≤ b.toNat) ∧ (a.toNat = 0xED → b.toNat < 0xA0) := by
  simp only [follows3, Bool.and_eq_true, is_tail_iff, Bool.not_eq_true', Bool.and_eq_false_imp, beq_iff_eq,
    decide_eq_false_iff_not, ← UInt8.toNat_inj, UInt8.lt_iff_toNat_lt, UInt8.le_iff_toNat_le, UInt8.reduceToNat,
    Nat.not_lt, Nat.not_le, and_assoc]

theorem follows4_iff (a b : UInt8) : follows4 a b = true ↔
    (0x80 ≤ b.toNat ∧ b.toNat ≤ 0xBF) ∧ (a.toNat = 0xF0 → 0x90 ≤ b.toNat) ∧ (a.toNat = 0xF4 → b.toNat < 0x90) := by
  simp only [follows4, Bool.and_eq_true, is_tail_iff, Bool.not_eq_true', Bool.and_eq_false_imp, beq_iff_eq,
    decide_eq_false_iff_not, ← UInt8.toNat_inj, UInt8.lt_iff_toNat_lt, UInt8.le_iff_toNat_le, UInt8.reduceToNat,
    Nat.not_lt, Nat.not_le, and_assoc]

section Patterns

variable (a b c d : UInt8) (rest : Bytes)

theorem segments_one (ascii : a.toNat < 0x80) :
    segments (a :: rest) = .point (Char.ofNat a.toNat) [a] :: segments rest := by
  have low : a < 0x80 := UInt8.lt_iff_toNat_lt.mpr ascii
  rw [segments.eq_def]
  simp only [if_pos low]

theorem not_ascii (high : 0x80 ≤ a.toNat) : ¬ a < 0x80 := by
  rw [UInt8.lt_iff_toNat_lt]
  exact Nat.not_lt.mpr high

theorem not_between (low high : UInt8) (outside : a.toNat < low.toNat ∨ high.toNat < a.toNat) :
    ¬ (low ≤ a && a ≤ high) = true := by
  rw [between_iff]
  omega

theorem segments_two (lead : 0xC2 ≤ a.toNat ∧ a.toNat ≤ 0xDF) (second : 0x80 ≤ b.toNat ∧ b.toNat ≤ 0xBF) :
    segments (a :: b :: rest) = .point (point2 a b) [a, b] :: segments rest := by
  have high := not_ascii a (Nat.le_trans (by decide) lead.1)
  have leads : (0xC2 ≤ a && a ≤ 0xDF) = true := (between_iff _ _ a).mpr lead
  rw [segments.eq_def]
  simp only [if_neg high, if_pos leads, if_pos ((is_tail_iff b).mpr second)]

theorem segments_three (lead : 0xE0 ≤ a.toNat ∧ a.toNat ≤ 0xEF) (second : follows3 a b = true)
    (third : 0x80 ≤ c.toNat ∧ c.toNat ≤ 0xBF) :
    segments (a :: b :: c :: rest) = .point (point3 a b c) [a, b, c] :: segments rest := by
  have high := not_ascii a (Nat.le_trans (by decide) lead.1)
  have notTwo := not_between a 0xC2 0xDF (Or.inr (Nat.lt_of_lt_of_le (by decide) lead.1))
  have leads : (0xE0 ≤ a && a ≤ 0xEF) = true := (between_iff _ _ a).mpr lead
  rw [segments.eq_def]
  simp only [if_neg high, if_neg notTwo, if_pos leads, if_pos second, if_pos ((is_tail_iff c).mpr third)]

theorem segments_four (lead : 0xF0 ≤ a.toNat ∧ a.toNat ≤ 0xF4) (second : follows4 a b = true)
    (third : 0x80 ≤ c.toNat ∧ c.toNat ≤ 0xBF) (fourth : 0x80 ≤ d.toNat ∧ d.toNat ≤ 0xBF) :
    segments (a :: b :: c :: d :: rest) = .point (point4 a b c d) [a, b, c, d] :: segments rest := by
  have high := not_ascii a (Nat.le_trans (by decide) lead.1)
  have notTwo := not_between a 0xC2 0xDF (Or.inr (Nat.lt_of_lt_of_le (by decide) lead.1))
  have notThree := not_between a 0xE0 0xEF (Or.inr (Nat.lt_of_lt_of_le (by decide) lead.1))
  have leads : (0xF0 ≤ a && a ≤ 0xF4) = true := (between_iff _ _ a).mpr lead
  rw [segments.eq_def]
  simp only [if_neg high, if_neg notTwo, if_neg notThree, if_pos leads, if_pos second,
    if_pos ((is_tail_iff c).mpr third), if_pos ((is_tail_iff d).mpr fourth)]

end Patterns

theorem toNat_byte (n : Nat) (small : n < 256) : (UInt8.ofNat n).toNat = n := UInt8.toNat_ofNat_of_lt' small

theorem segments_char (c : Char) (rest : Bytes) :
    segments (String.utf8EncodeChar c ++ rest) = .point c (String.utf8EncodeChar c) :: segments rest := by
  have valid : c.toNat < 0xD800 ∨ 0xDFFF < c.toNat ∧ c.toNat < 0x110000 := c.valid
  -- The number is put together again from the bits that the bytes hold.
  have found : ∀ n, n = c.toNat → Char.ofNat n = c := fun n same => same ▸ Char.ofNat_toNat c
  have coded := String.utf8EncodeChar.eq_1 c
  simp only [Char.toNat_val] at coded
  by_cases one : c.toNat ≤ 0x7F
  · rw [if_pos one] at coded
    have first := toNat_byte c.toNat (by omega)
    rw [coded, List.singleton_append, segments_one _ rest (by omega), found _ first]
  · rw [if_neg one] at coded
    have last := toNat_byte (c.toNat % 64 + 128) (by omega)
    by_cases two : c.toNat ≤ 0x7FF
    · rw [if_pos two] at coded
      have first := toNat_byte (c.toNat / 64 % 32 + 192) (by omega)
      rw [coded, List.cons_append, List.singleton_append, segments_two _ _ rest (by omega) (by omega), point2,
        found _ (by omega)]
    · rw [if_neg two] at coded
      have middle := toNat_byte (c.toNat / 64 % 64 + 128) (by omega)
      by_cases three : c.toNat ≤ 0xFFFF
      · rw [if_pos three] at coded
        have first := toNat_byte (c.toNat / 4096 % 16 + 224) (by omega)
        have second := (follows3_iff (UInt8.ofNat (c.toNat / 4096 % 16 + 224)) (UInt8.ofNat (c.toNat / 64 % 64 + 128))).mpr
          (by omega)
        rw [coded, List.cons_append, List.cons_append, List.singleton_append,
          segments_three _ _ _ rest (by omega) second (by omega), point3, found _ (by omega)]
      · rw [if_neg three] at coded
        have first := toNat_byte (c.toNat / 262144 % 8 + 240) (by omega)
        have next := toNat_byte (c.toNat / 4096 % 64 + 128) (by omega)
        have second := (follows4_iff (UInt8.ofNat (c.toNat / 262144 % 8 + 240))
          (UInt8.ofNat (c.toNat / 4096 % 64 + 128))).mpr (by omega)
        rw [coded, List.cons_append, List.cons_append, List.cons_append, List.singleton_append,
          segments_four _ _ _ _ rest (by omega) second (by omega) (by omega), point4, found _ (by omega)]

theorem decode_lossy_append (cs : List Char) (rest : Bytes) :
    decodeLossy (encode (Text.ofChars cs) ++ rest) = Text.ofChars cs ++ decodeLossy rest := by
  induction cs with
  | nil => rfl
  | cons c cs ih =>
      have split : encode (Text.ofChars (c :: cs)) ++ rest =
          String.utf8EncodeChar c ++ (encode (Text.ofChars cs) ++ rest) := List.append_assoc _ _ _
      rw [split, decodeLossy, segments_char, List.map_cons]
      exact congrArg (CodePoint.scalar c :: ·) ih

theorem decode_lossy_chars (cs : List Char) : decodeLossy (encode (Text.ofChars cs)) = Text.ofChars cs := by
  have whole := decode_lossy_append cs []
  rw [List.append_nil] at whole
  exact whole.trans (List.append_nil _)

end Utf8

end Linkage
