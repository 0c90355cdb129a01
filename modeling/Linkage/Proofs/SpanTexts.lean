import Linkage.Proofs.CharacterBytes
import Linkage.Source
import Linkage.SyntaxTree

set_option autoImplicit false

namespace Linkage

namespace Bytes

-- The position that an offset means: one below zero counts from the end.
def position (length : Nat) (offset : Int) : Int := if offset < 0 then length + offset else offset

def picked (bytes : Bytes) (start stop : Int) : Bytes :=
  (bytes.zipIdx.filter fun b => position bytes.length start ≤ b.2 && b.2 < position bytes.length stop).map Prod.fst

theorem filter_positions (bytes : Bytes) (first low high : Nat) :
    ((bytes.zipIdx first).filter fun b => low ≤ b.2 && b.2 < high).map Prod.fst =
      (bytes.take (high - first)).drop (low - first) := by
  induction bytes generalizing first with
  | nil => simp
  | cons b rest ih =>
      rw [List.zipIdx_cons]
      by_cases below : first < high
      · have upTo : high - first = high - (first + 1) + 1 := by omega
        by_cases reached : low ≤ first
        · have fromHere : low - first = 0 := by omega
          have fromNext : low - (first + 1) = 0 := by omega
          rw [List.filter_cons_of_pos (by simp [below, reached]), List.map_cons, ih, upTo, fromHere, fromNext]
          rfl
        · have later : low - first = low - (first + 1) + 1 := by omega
          rw [List.filter_cons_of_neg (by simp [reached]), ih, upTo, later]
          rfl
      · have upTo : high - first = 0 := by omega
        have upToNext : high - (first + 1) = 0 := by omega
        rw [List.filter_cons_of_neg (by simp [below]), ih, upTo, upToNext, List.take_zero, List.take_zero, List.drop_nil,
          List.drop_nil]

theorem place_le_iff (length i : Nat) (inside : i < length) (offset : Int) :
    position length offset ≤ i ↔ place length offset ≤ i := by
  rw [position, place]
  split <;> omega

theorem slice_positions (bytes : Bytes) (start stop : Int) : slice bytes start stop = picked bytes start stop := by
  have cut := filter_positions bytes 0 (place bytes.length start) (place bytes.length stop)
  rw [Nat.sub_zero, Nat.sub_zero] at cut
  rw [slice, ← cut, picked]
  refine congrArg (List.map Prod.fst) (List.filter_congr ?_)
  rintro ⟨b, i⟩ member
  have inside : i < bytes.length := by
    have bound := List.snd_lt_of_mem_zipIdx member
    rw [Nat.add_zero] at bound
    exact bound
  have low := place_le_iff bytes.length i inside start
  have high := place_le_iff bytes.length i inside stop
  rw [Bool.eq_iff_iff, Bool.and_eq_true, Bool.and_eq_true, decide_eq_true_iff, decide_eq_true_iff, decide_eq_true_iff,
    decide_eq_true_iff]
  omega

end Bytes

namespace Span

def bytesOf (cs : List Char) : Bytes := Utf8.encode (Text.ofChars cs)

def width (cs : List Char) : Nat := (bytesOf cs).length

theorem bytes_append (a b : List Char) : bytesOf (a ++ b) = bytesOf a ++ bytesOf b := by
  rw [bytesOf, Text.ofChars, List.map_append, Utf8.encode, List.flatMap_append]
  rfl

theorem width_append (a b : List Char) : width (a ++ b) = width a + width b := by
  rw [width, bytes_append, List.length_append]
  rfl

theorem width_zero_iff (cs : List Char) : width cs = 0 ↔ cs = [] := by
  cases cs with
  | nil => exact ⟨fun _ => rfl, fun _ => rfl⟩
  | cons c cs =>
      have first : 0 < width [c] := by
        change 0 < (String.utf8EncodeChar c ++ []).length
        rw [List.append_nil, String.length_utf8EncodeChar]
        exact c.utf8Size_pos
      have split := width_append [c] cs
      simp only [List.singleton_append] at split
      simp only [reduceCtorEq, iff_false]
      omega

-- An offset that falls between two characters, or on an end of them.
def Boundary (cs : List Char) (offset : Int) : Prop :=
  ∃ front back, cs = front ++ back ∧ Bytes.place (width cs) offset = width front

-- Spans from one offset to another, each beginning where the one before it ends, and none of them
-- reversed.
inductive Adjacent (cs : List Char) : Int → List Span → Int → Prop where
  | done (offset : Int) (boundary : Boundary cs offset) : Adjacent cs offset [] offset
  | next (start middle stop : Int) (rest : List Span) (boundary : Boundary cs start)
      (forward : Bytes.place (width cs) start ≤ Bytes.place (width cs) middle)
      (onward : Adjacent cs middle rest stop) : Adjacent cs start (⟨start, middle⟩ :: rest) stop

theorem text_between (front middle back : List Char) (start stop : Int)
    (begins : Bytes.place (width (front ++ middle ++ back)) start = width front)
    (ends : Bytes.place (width (front ++ middle ++ back)) stop = width (front ++ middle)) :
    Span.text ⟨start, stop⟩ (bytesOf (front ++ middle ++ back)) = Text.ofChars middle := by
  have cut : Bytes.slice (bytesOf (front ++ middle ++ back)) start stop = bytesOf middle := by
    have upTo : (bytesOf (front ++ middle ++ back)).take (width (front ++ middle)) = bytesOf front ++ bytesOf middle := by
      rw [bytes_append (front ++ middle), width, List.take_left, bytes_append]
    rw [Bytes.slice, ← width, begins, ends, upTo, width, List.drop_left]
  rw [Span.text, cut]
  exact Utf8.decode_lossy_chars middle

theorem front_of_front (a b c d : List Char) (same : a ++ b = c ++ d) (shorter : width a ≤ width c) :
    ∃ between, c = a ++ between := by
  rcases List.append_eq_append_iff.mp same with ⟨between, whole, _⟩ | ⟨between, whole, _⟩
  · exact ⟨between, whole⟩
  · have size := width_append c between
    have empty : between = [] := (width_zero_iff between).mp (by rw [whole] at shorter; omega)
    exact ⟨[], by rw [whole, empty, List.append_nil, List.append_nil]⟩

theorem adjacent_texts (cs : List Char) (start stop : Int) (spans : List Span) (adjacent : Adjacent cs start spans stop) :
    ∃ front middle back, cs = front ++ middle ++ back ∧ Bytes.place (width cs) start = width front ∧
      Bytes.place (width cs) stop = width (front ++ middle) ∧
      (spans.map (Span.text · (bytesOf cs))).flatten = Text.ofChars middle := by
  induction adjacent with
  | done offset boundary =>
      obtain ⟨front, back, split, place⟩ := boundary
      exact ⟨front, [], back, by rw [List.append_nil, split], place, by rw [List.append_nil, place], rfl⟩
  | next start middle stop rest boundary forward _ ih =>
      obtain ⟨front, back, split, begins⟩ := boundary
      obtain ⟨later, inner, last, laterSplit, continues, ends, texts⟩ := ih
      rw [begins, continues] at forward
      obtain ⟨own, rfl⟩ := front_of_front front back later (inner ++ last)
        (by rw [← split, laterSplit, List.append_assoc]) forward
      have whole : cs = front ++ own ++ (inner ++ last) := by rw [laterSplit, List.append_assoc (front ++ own)]
      have text := text_between front own (inner ++ last) start middle (whole ▸ begins) (whole ▸ continues)
      refine ⟨front, own ++ inner, last, by rw [laterSplit, List.append_assoc front], begins, ?_, ?_⟩
      · rw [ends, List.append_assoc]
      · rw [List.map_cons, List.flatten_cons, texts, whole, text, Text.ofChars, Text.ofChars, Text.ofChars, List.map_append]

def Writes (source : Source) (cs : List Char) : Prop :=
  source = .text (Text.ofChars cs) ∨ source = .bytes (bytesOf cs)

theorem no_surrogate (cs : List Char) (place : Nat) : Source.surrogate? place (Text.ofChars cs) = none := by
  induction cs generalizing place with
  | nil => rfl
  | cons c cs ih => exact ih (place + 1)

theorem text_in_written (span : Span) (source : Source) (cs : List Char) (writes : Writes source cs) :
    span.textIn source = .ok (span.text (bytesOf cs)) := by
  rcases writes with rfl | rfl
  · rw [textIn, Source.encoded, no_surrogate]
    rfl
  · rfl

theorem texts_in_written (spans : List Span) (source : Source) (cs : List Char) (writes : Writes source cs) :
    spans.mapM (textIn · source) = .ok (spans.map (Span.text · (bytesOf cs))) := by
  simp only [text_in_written _ source cs writes]
  exact List.mapM_pure

theorem spans_cut_exactly :
    (∀ a b c source, Writes source (a ++ b ++ c) →
      textIn ⟨width a, width a + width b⟩ source = .ok (Text.ofChars b)) ∧
    (∀ cs source start stop spans, Writes source cs → Adjacent cs start spans stop →
      ∃ texts, spans.mapM (textIn · source) = .ok texts ∧ textIn ⟨start, stop⟩ source = .ok texts.flatten) ∧
    ∀ (n : Node) (source : Bytes),
      n.span.textIn (.bytes source) = .ok (n.text source) ∧
        n.text source = Utf8.decodeLossy (Bytes.picked source n.start n.stop) := by
  refine ⟨?_, ?_, ?_⟩
  · intro a b c source writes
    have cut : Bytes.slice (bytesOf (a ++ b ++ c)) (width a) (width a + width b) = bytesOf b := by
      rw [bytes_append, bytes_append]
      exact Bytes.slice_append_middle (bytesOf a) (bytesOf b) (bytesOf c)
    rw [text_in_written _ source _ writes, Span.text, cut]
    exact congrArg Except.ok (Utf8.decode_lossy_chars b)
  · intro cs source start stop spans writes adjacent
    obtain ⟨front, middle, back, rfl, begins, ends, texts⟩ := adjacent_texts cs start stop spans adjacent
    refine ⟨_, texts_in_written spans source _ writes, ?_⟩
    rw [text_in_written _ source _ writes, texts, text_between front middle back start stop begins ends]
  · intro n source
    refine ⟨?_, ?_⟩
    · rw [n.text_span]
      rfl
    · rw [Node.text, Bytes.slice_positions]

-- Characters of two bytes, four bytes and one.
def mixedChars : List Char := ['é', '😀', 'x']

-- One offset counts from the end, and the last lies past it.
theorem mixed_adjacent : Adjacent mixedChars 0 [⟨0, 2⟩, ⟨2, -1⟩, ⟨-1, 100⟩] 100 := by
  refine .next 0 2 100 _ ⟨[], mixedChars, rfl, by decide⟩ (by decide) ?_
  refine .next 2 (-1) 100 _ ⟨['é'], ['😀', 'x'], rfl, by decide⟩ (by decide) ?_
  refine .next (-1) 100 100 _ ⟨['é', '😀'], ['x'], rfl, by decide⟩ (by decide) ?_
  exact .done 100 ⟨mixedChars, [], rfl, by decide⟩

theorem spans_cut_exactly_mixed :
    textIn ⟨2, 6⟩ (.text (Text.ofChars mixedChars)) = .ok (Text.ofChars ['😀']) ∧
      ∃ texts, [⟨0, 2⟩, ⟨2, -1⟩, ⟨-1, 100⟩].mapM (textIn · (.bytes (bytesOf mixedChars))) = .ok texts ∧
        textIn ⟨0, 100⟩ (.bytes (bytesOf mixedChars)) = .ok texts.flatten := by
  obtain ⟨middle, joined, _⟩ := spans_cut_exactly
  exact ⟨middle ['é'] ['😀'] ['x'] (.text (Text.ofChars mixedChars)) (Or.inl rfl),
    joined mixedChars (.bytes (bytesOf mixedChars)) 0 100 _ (Or.inr rfl) mixed_adjacent⟩

end Span

end Linkage
