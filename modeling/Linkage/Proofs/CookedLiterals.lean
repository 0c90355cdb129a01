import Linkage.Classification
import Linkage.Proofs.CharacterBytes

set_option autoImplicit false

namespace Linkage

namespace Text

theorem drop_while_solid (p : CodePoint → Bool) (t : Text) (solid : ∀ c ∈ t, p c = false) : t.dropWhile p = t := by
  cases t with
  | nil => rfl
  | cons c rest => exact List.dropWhile_cons_of_neg (by simp [solid c List.mem_cons_self])

end Text

namespace Literal

structure Stretch where
  escaped : Bool
  chars : List Char

namespace Stretch

def kind (s : Stretch) : String := if s.escaped then "escape_sequence" else "string_fragment"

def bytes (s : Stretch) : Bytes := Utf8.encode (Text.ofChars s.chars)

def read (s : Stretch) : Except Failure Text :=
  if s.escaped then escape (Text.ofChars s.chars) else .ok (Text.ofChars s.chars)

def readAll : List Stretch → Except Failure Text
  | [] => .ok []
  | s :: rest => do
    let first ← s.read
    let more ← readAll rest
    return first ++ more

def bytesOf (stretches : List Stretch) : Bytes := stretches.flatMap bytes

theorem read_all_append (front back : List Stretch) (first second : Text) (read : readAll front = .ok first)
    (more : readAll back = .ok second) : readAll (front ++ back) = .ok (first ++ second) := by
  induction front generalizing first with
  | nil =>
      cases read
      exact more
  | cons s front ih =>
      obtain ⟨own, done, rest⟩ := Failure.bind_ok _ _ _ read
      obtain ⟨later, remaining, last⟩ := Failure.bind_ok _ _ _ rest
      cases last
      rw [List.cons_append, readAll, done, Failure.ok_bind, ih later remaining, List.append_assoc]
      rfl

end Stretch

-- Stretches from an offset on, each right after the one before it and with a node of its own. Nodes
-- of other kinds may stand anywhere between.
inductive Laid : Nat → List Stretch → List Node → Prop where
  | nil (offset : Nat) : Laid offset [] []
  | stretch (offset : Nat) (s : Stretch) (n : Node) (stretches : List Stretch) (nodes : List Node)
      (kind : n.kind = s.kind) (named : n.named = true) (start : n.start = offset)
      (stop : n.stop = offset + s.bytes.length) (rest : Laid (offset + s.bytes.length) stretches nodes) :
      Laid offset (s :: stretches) (n :: nodes)
  | other (offset : Nat) (n : Node) (stretches : List Stretch) (nodes : List Node)
      (kind : n.kind ≠ "escape_sequence" ∧ n.kind ≠ "string_fragment") (rest : Laid offset stretches nodes) :
      Laid offset stretches (n :: nodes)

theorem piece_stretch (s : Stretch) (n : Node) (source : Bytes) (kind : n.kind = s.kind)
    (covers : n.text source = Text.ofChars s.chars) : piece source n = s.read := by
  rw [piece, kind, covers, Stretch.kind, Stretch.read]
  cases s.escaped <;> rfl

theorem piece_other (n : Node) (source : Bytes) (kind : n.kind ≠ "escape_sequence" ∧ n.kind ≠ "string_fragment") :
    piece source n = .ok [] := by
  simp [piece, kind.1, kind.2]

theorem text_covered (s : Stretch) (n : Node) (front back : Bytes) (start : n.start = front.length)
    (stop : n.stop = front.length + s.bytes.length) :
    n.text (front ++ s.bytes ++ back) = Text.ofChars s.chars := by
  rw [Node.text, start, stop, Bytes.slice_append_middle]
  exact Utf8.decode_lossy_chars s.chars

theorem pieces_laid (offset : Nat) (stretches : List Stretch) (nodes : List Node) (laid : Laid offset stretches nodes)
    (front back : Bytes) (placed : front.length = offset) :
    pieces (front ++ Stretch.bytesOf stretches ++ back) (nodes.filter (·.named)) = Stretch.readAll stretches := by
  induction laid generalizing front with
  | nil offset => rfl
  | stretch offset s n stretches nodes kind named start stop _ ih =>
      have around : front ++ Stretch.bytesOf (s :: stretches) ++ back =
          front ++ s.bytes ++ (Stretch.bytesOf stretches ++ back) := by
        simp [Stretch.bytesOf, List.append_assoc]
      have beyond : front ++ Stretch.bytesOf (s :: stretches) ++ back =
          (front ++ s.bytes) ++ Stretch.bytesOf stretches ++ back := by rw [around, List.append_assoc (front ++ s.bytes)]
      have own : piece (front ++ Stretch.bytesOf (s :: stretches) ++ back) n = s.read := by
        rw [around]
        exact piece_stretch s n _ kind (text_covered s n front _ (by rw [start, placed]) (by rw [stop, placed]))
      have later := ih (front ++ s.bytes) (by rw [List.length_append, placed])
      rw [List.filter_cons_of_pos named, pieces, own, beyond, later, Stretch.readAll]
  | other offset n stretches nodes kind _ ih =>
      have later := ih front placed
      by_cases named : n.named = true
      · rw [List.filter_cons_of_pos named, pieces, piece_other n _ kind, Failure.ok_bind, later]
        cases Stretch.readAll stretches <;> rfl
      · rw [List.filter_cons_of_neg named, later]

structure HexDigit where
  value : Fin 16
  capital : Bool

namespace HexDigit

def char (d : HexDigit) : Char :=
  if d.value.val < 10 then Char.ofNat (48 + d.value.val)
  else Char.ofNat ((if d.capital then 55 else 87) + d.value.val)

def point (d : HexDigit) : CodePoint := .scalar d.char

def number (digits : List HexDigit) : Nat := digits.foldl (fun n d => n * 16 + d.value.val) 0

def text (digits : List HexDigit) : Text := Text.ofChars (digits.map char)

theorem digit_point (d : HexDigit) : Numeral.digit? .sixteen d.point = some d.value.val := by
  have all : ∀ (value : Fin 16) (capital : Bool),
      Numeral.digit? .sixteen (point ⟨value, capital⟩) = some value.val := by decide +kernel
  exact all d.value d.capital

theorem point_plain (d : HexDigit) :
    d.point.isNumeralBlank = false ∧ d.point.is '-' = false ∧ d.point.is '+' = false ∧
      (d.point.is 'x' || d.point.is 'X') = false ∧ d.point.val ≠ 123 := by
  have all : ∀ (value : Fin 16) (capital : Bool),
      (point ⟨value, capital⟩).isNumeralBlank = false ∧ (point ⟨value, capital⟩).is '-' = false ∧
        (point ⟨value, capital⟩).is '+' = false ∧
        ((point ⟨value, capital⟩).is 'x' || (point ⟨value, capital⟩).is 'X') = false ∧
        (point ⟨value, capital⟩).val ≠ 123 := by decide +kernel
  exact all d.value d.capital

theorem digits_from_text (digits : List HexDigit) (start : Nat) :
    Numeral.digitsFrom? .sixteen start (text digits) =
      some (digits.foldl (fun n d => n * 16 + d.value.val) start) := by
  induction digits generalizing start with
  | nil => rfl
  | cons d digits ih =>
      change Numeral.digitsFrom? .sixteen start (d.point :: text digits) = _
      rw [Numeral.digitsFrom?.eq_def]
      simp only [digit_point]
      exact ih _

theorem without_mark_text (d : HexDigit) (digits : List HexDigit) :
    Numeral.withoutMark .sixteen (d.point :: text digits) = d.point :: text digits := by
  cases digits with
  | nil => rfl
  | cons next digits =>
      have unmarked := (point_plain next).2.2.2.1
      change Numeral.withoutMark .sixteen (d.point :: next.point :: text digits) = _
      rw [Numeral.withoutMark.eq_def]
      simp only [unmarked, Bool.and_false, Bool.false_eq_true, if_false]
      rfl

theorem trimmed_text (digits : List HexDigit) :
    Text.dropEndWhile CodePoint.isNumeralBlank ((text digits).dropWhile CodePoint.isNumeralBlank) = text digits := by
  have solid : ∀ p ∈ text digits, p.isNumeralBlank = false := by
    intro p member
    simp only [text, Text.ofChars, List.map_map, List.mem_map, Function.comp_apply] at member
    obtain ⟨d, _, same⟩ := member
    rw [← same]
    exact (point_plain d).1
  rw [Text.drop_while_solid _ _ solid, Text.dropEndWhile,
    Text.drop_while_solid _ _ fun p member => solid p (List.mem_reverse.mp member), List.reverse_reverse]

theorem read_text (digits : List HexDigit) (present : digits ≠ []) :
    Numeral.read? .sixteen (text digits) = some (number digits : Int) := by
  cases digits with
  | nil => contradiction
  | cons d digits =>
      obtain ⟨_, notMinus, notPlus, _⟩ := point_plain d
      have written : text (d :: digits) = d.point :: text digits := rfl
      have counted : Numeral.digits? .sixteen (d.point :: text digits) = some (number (d :: digits)) := by
        rw [Numeral.digits?.eq_def]
        simp only [digit_point, Option.bind_some, digits_from_text, number, List.foldl_cons, Nat.zero_mul, Nat.zero_add]
      rw [Numeral.read?, trimmed_text]
      simp only [written, notMinus, notPlus, Bool.false_eq_true, if_false, without_mark_text, counted]
      rfl

end HexDigit

inductive Control where
  | backspace
  | tab
  | lineFeed
  | verticalTab
  | formFeed
  | carriageReturn

def Control.letter : Control → Char
  | .backspace => 'b'
  | .tab => 't'
  | .lineFeed => 'n'
  | .verticalTab => 'v'
  | .formFeed => 'f'
  | .carriageReturn => 'r'

def Control.char : Control → Char
  | .backspace => Char.ofNat 8
  | .tab => Char.ofNat 9
  | .lineFeed => Char.ofNat 10
  | .verticalTab => Char.ofNat 11
  | .formFeed => Char.ofNat 12
  | .carriageReturn => Char.ofNat 13

inductive LineEnd where
  | lineFeed
  | returnAndFeed
  | carriageReturn
  | lineSeparator
  | paragraphSeparator

def LineEnd.chars : LineEnd → List Char
  | .lineFeed => ['\n']
  | .returnAndFeed => ['\r', '\n']
  | .carriageReturn => ['\r']
  | .lineSeparator => [Char.ofNat 0x2028]
  | .paragraphSeparator => [Char.ofNat 0x2029]

-- What does not stand for itself after a backslash.
def reserved : List Char :=
  ['x', 'u', '0', '1', '2', '3', '4', '5', '6', '7', 'b', 't', 'n', 'v', 'f', 'r', '\n', '\r', Char.ofNat 0x2028,
    Char.ofNat 0x2029]

inductive Escape where
  | braced (digits : List HexDigit) (present : digits ≠ []) (inRange : HexDigit.number digits ≤ 0x10FFFF)
  | four (a b c d : HexDigit)
  | two (a b : HexDigit)
  | control (c : Control)
  | continuation (ending : LineEnd)
  | itself (c : Char) (free : c ∉ reserved)

def pointText (n : Nat) : Text := (CodePoint.ofNat? n).toList

namespace Escape

def body : Escape → List Char
  | .braced digits _ _ => 'u' :: '\x7b' :: digits.map HexDigit.char ++ ['\x7d']
  | .four a b c d => 'u' :: [a, b, c, d].map HexDigit.char
  | .two a b => 'x' :: [a, b].map HexDigit.char
  | .control c => [c.letter]
  | .continuation ending => ending.chars
  | .itself c _ => [c]

def meaning : Escape → Text
  | .braced digits _ _ => pointText (HexDigit.number digits)
  | .four a b c d => pointText (HexDigit.number [a, b, c, d])
  | .two a b => pointText (HexDigit.number [a, b])
  | .control c => [.scalar c.char]
  | .continuation _ => []
  | .itself c _ => [.scalar c]

end Escape

theorem point_found (n : Nat) (inRange : n ≤ 0x10FFFF) : ∃ point, CodePoint.ofNat? n = some point := by
  rw [CodePoint.ofNat?]
  split
  · exact ⟨_, rfl⟩
  · rw [if_pos (by omega)]
    exact ⟨_, rfl⟩

theorem point_of_number (n : Nat) (inRange : n ≤ 0x10FFFF) : pointOf n = .ok (pointText n) := by
  have small : ¬ ((n : Int) < -2147483648 ∨ 2147483647 < (n : Int)) := by omega
  have natural : ¬ (n : Int) < 0 := by omega
  obtain ⟨point, found⟩ := point_found n inRange
  rw [pointOf, if_neg small, if_neg natural, Int.toNat_natCast, pointText, found]
  rfl

theorem hex_point_digits (digits : List HexDigit) (present : digits ≠ [])
    (inRange : HexDigit.number digits ≤ 0x10FFFF) :
    hexPoint (HexDigit.text digits) = .ok (pointText (HexDigit.number digits)) := by
  rw [hexPoint, HexDigit.read_text digits present]
  exact point_of_number _ inRange

theorem number_four (a b c d : HexDigit) : HexDigit.number [a, b, c, d] ≤ 0xFFFF := by
  have bounds := And.intro (And.intro a.value.isLt b.value.isLt) (And.intro c.value.isLt d.value.isLt)
  simp only [HexDigit.number, List.foldl_cons, List.foldl_nil]
  omega

theorem number_two (a b : HexDigit) : HexDigit.number [a, b] ≤ 0xFF := by
  have bounds := And.intro a.value.isLt b.value.isLt
  simp only [HexDigit.number, List.foldl_cons, List.foldl_nil]
  omega

theorem braced_digits (digits : Text) :
    braced? (.scalar 'u' :: .scalar '\x7b' :: (digits ++ [.scalar '\x7d'])) = some digits := by
  have closed : (digits ++ [CodePoint.scalar '\x7d']).getLast? = some (.scalar '\x7d') := List.getLast?_concat
  rw [braced?, closed, List.dropLast_concat]
  rfl

theorem unbraced (mark : CodePoint) (d : HexDigit) (rest : Text) : braced? (mark :: d.point :: rest) = none := by
  have other := (HexDigit.point_plain d).2.2.2.2
  simp [braced?, other]

theorem marked_digits (mark : Char) (known : mark = 'u' ∨ mark = 'x') (digits : List HexDigit) (present : digits ≠ []) :
    escapeBody (.scalar mark :: HexDigit.text digits) = hexPoint (HexDigit.text digits) := by
  cases digits with
  | nil => contradiction
  | cons d digits =>
      have marked : marked? (.scalar mark :: HexDigit.text (d :: digits)) = some (HexDigit.text (d :: digits)) := by
        rcases known with rfl | rfl <;> rfl
      have unclosed : braced? (.scalar mark :: HexDigit.text (d :: digits)) = none := unbraced _ d _
      simp only [escapeBody, unclosed, marked]

theorem reserved_number (c : Char) (n : Nat) (listed : Char.ofNat n ∈ reserved) (same : c.toNat = n) : c ∈ reserved := by
  rw [← same, Char.ofNat_toNat] at listed
  exact listed

theorem free_not_octal (c : Char) (free : c ∉ reserved) : isOctal (.scalar c) = false := by
  have listed : ∀ n < 56, 48 ≤ n → Char.ofNat n ∈ reserved := by decide
  apply Bool.eq_false_iff.mpr
  intro octal
  simp only [isOctal, Bool.and_eq_true, decide_eq_true_eq] at octal
  change 48 ≤ c.toNat ∧ c.toNat ≤ 55 at octal
  exact free (reserved_number c c.toNat (listed c.toNat (by omega) octal.1) rfl)

theorem free_not_control (c : Char) (free : c ∉ reserved) : controlLetter? [.scalar c] = none := by
  simp only [reserved, List.mem_cons, List.not_mem_nil, or_false, not_or] at free
  simp [controlLetter?, CodePoint.is, free]

theorem free_not_continuation (c : Char) (free : c ∉ reserved) : isContinuation [.scalar c] = false := by
  have numbers : c.toNat ≠ 0x2028 ∧ c.toNat ≠ 0x2029 :=
    ⟨fun same => free (reserved_number c _ (by decide) same), fun same => free (reserved_number c _ (by decide) same)⟩
  simp only [reserved, List.mem_cons, List.not_mem_nil, or_false, not_or] at free
  simp [isContinuation, CodePoint.is, CodePoint.val, free, numbers]

theorem escape_meaning (e : Escape) : escape (Text.ofChars ('\\' :: e.body)) = .ok e.meaning := by
  change escapeBody (Text.ofChars e.body) = .ok e.meaning
  cases e with
  | braced digits present inRange =>
      have written : Text.ofChars (Escape.braced digits present inRange).body =
          .scalar 'u' :: .scalar '\x7b' :: (HexDigit.text digits ++ [.scalar '\x7d']) := by
        simp [Escape.body, Text.ofChars, HexDigit.text]
      rw [written, escapeBody, braced_digits]
      exact hex_point_digits digits present inRange
  | four a b c d =>
      have present : [a, b, c, d] ≠ [] := List.cons_ne_nil _ _
      exact (marked_digits 'u' (Or.inl rfl) _ present).trans
        (hex_point_digits _ present (Nat.le_trans (number_four a b c d) (by decide)))
  | two a b =>
      have present : [a, b] ≠ [] := List.cons_ne_nil _ _
      exact (marked_digits 'x' (Or.inr rfl) _ present).trans
        (hex_point_digits _ present (Nat.le_trans (number_two a b) (by decide)))
  | control c => cases c <;> rfl
  | continuation ending => cases ending <;> rfl
  | itself c free =>
      change escapeBody [.scalar c] = .ok [.scalar c]
      simp only [escapeBody, braced?, marked?, List.isEmpty_cons, Bool.not_false, Bool.true_and, List.all_cons,
        List.all_nil, Bool.and_true, free_not_octal c free, free_not_control c free, free_not_continuation c free,
        Bool.false_eq_true, if_false]

inductive Part where
  | plain (chars : List Char)
  | escaped (e : Escape)

namespace Part

def stretch : Part → Stretch
  | .plain chars => ⟨false, chars⟩
  | .escaped e => ⟨true, '\\' :: e.body⟩

def meaning : Part → Text
  | .plain chars => Text.ofChars chars
  | .escaped e => e.meaning

def meaningOf (parts : List Part) : Text := parts.flatMap meaning

theorem read_stretch (part : Part) : part.stretch.read = .ok part.meaning := by
  cases part with
  | plain chars => rfl
  | escaped e => exact escape_meaning e

theorem read_all_parts (parts : List Part) : Stretch.readAll (parts.map stretch) = .ok (meaningOf parts) := by
  induction parts with
  | nil => rfl
  | cons part parts ih =>
      rw [List.map_cons, Stretch.readAll, read_stretch, Failure.ok_bind, ih]
      rfl

end Part

structure Written where
  parts : List Part
  front : Bytes
  back : Bytes
  node : Node
  laid : Laid front.length (parts.map Part.stretch) node.children

namespace Written

def source (w : Written) : Bytes := w.front ++ Stretch.bytesOf (w.parts.map Part.stretch) ++ w.back

def meaning (w : Written) : Text := Part.meaningOf w.parts

theorem value_source (w : Written) : value w.node w.source = .ok w.meaning :=
  (pieces_laid _ _ _ w.laid w.front w.back rfl).trans (Part.read_all_parts w.parts)

end Written

theorem literal_meaning :
    (∀ w : Written, value w.node w.source = .ok w.meaning) ∧
    ∀ (one two : Written) (file : Text) (resolve : Text → Traced ModuleSpecifier), one.meaning = two.meaning →
      Classification.moduleOf ⟨one.source, file, resolve⟩ one.node =
        Classification.moduleOf ⟨two.source, file, resolve⟩ two.node := by
  refine ⟨Written.value_source, ?_⟩
  intro one two file resolve same
  rw [Classification.moduleOf, Classification.moduleOf, one.value_source, two.value_source, same]

def hex (value : Fin 16) : HexDigit := ⟨value, false⟩

def quoteAt (start : Int) : Node := ⟨"quote", start, start + 1, false, none, false, []⟩

def leafAt (kind : String) (start stop : Int) : Node := ⟨kind, start, stop, true, none, false, []⟩

-- `"./\u{0061}"`, at the start of a source.
def numbered : Written where
  parts := [.plain ['.', '/'], .escaped (.braced [hex 0, hex 0, hex 6, hex 1] (by simp) (by decide))]
  front := [34]
  back := [34, 59]
  node := ⟨"string", 0, 12, true, none, false,
    [quoteAt 0, leafAt "string_fragment" 1 3, leafAt "escape_sequence" 3 11, quoteAt 11]⟩
  laid := .other _ _ _ _ (by decide) (.stretch _ _ _ _ _ rfl rfl rfl rfl (.stretch _ _ _ _ _ rfl rfl rfl rfl
    (.other _ _ _ _ (by decide) (.nil _))))

-- `"\x2E/\a"`, after two bytes that are no text.
def scattered : Written where
  parts := [.escaped (.two (hex 2) ⟨14, true⟩), .plain ['/'], .escaped (.itself 'a' (by decide))]
  front := [255, 255, 34]
  back := []
  node := ⟨"string", 2, 10, true, none, false,
    [quoteAt 2, leafAt "escape_sequence" 3 7, leafAt "string_fragment" 7 8, leafAt "escape_sequence" 8 10]⟩
  laid := .other _ _ _ _ (by decide) (.stretch _ _ _ _ _ rfl rfl rfl rfl (.stretch _ _ _ _ _ rfl rfl rfl rfl
    (.stretch _ _ _ _ _ rfl rfl rfl rfl (.nil _))))

def besideA (raw : Text) : Traced ModuleSpecifier :=
  Resolver.standard.resolve (Disk.ofLists [Text.ofString "/d/a.js"] []) raw (Text.ofString "/d") none

theorem literal_meaning_two_spellings :
    value numbered.node numbered.source = .ok (Text.ofString "./a") ∧
      value scattered.node scattered.source = .ok (Text.ofString "./a") ∧
      Classification.moduleOf ⟨numbered.source, [], besideA⟩ numbered.node =
        Classification.moduleOf ⟨scattered.source, [], besideA⟩ scattered.node := by
  obtain ⟨means, alike⟩ := literal_meaning
  have same : numbered.meaning = scattered.meaning := by decide
  refine ⟨?_, ?_, alike numbered scattered [] besideA same⟩
  · rw [means numbered]
    exact congrArg Except.ok (by decide)
  · rw [means scattered]
    exact congrArg Except.ok (by decide)

end Literal

end Linkage
