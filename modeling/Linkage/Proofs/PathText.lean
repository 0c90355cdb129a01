import Linkage.Path

set_option autoImplicit false

namespace Linkage

namespace Text

theorem split_on_free (sep : CodePoint) (t : Text) (free : sep ∉ t) : splitOn sep t = [t] := by
  induction t with
  | nil => rfl
  | cons c rest ih =>
      have other : c ≠ sep := fun same => free (same ▸ List.mem_cons_self)
      have later : sep ∉ rest := fun member => free (List.mem_cons_of_mem c member)
      simp only [splitOn, if_neg other, ih later]

theorem split_on_separator (sep : CodePoint) (left right : Text) :
    splitOn sep (left ++ sep :: right) = splitOn sep left ++ splitOn sep right := by
  induction left with
  | nil => simp [splitOn]
  | cons c left ih =>
      by_cases same : c = sep
      · simp [splitOn, same, ih]
      · cases split : splitOn sep left with
        | nil => exact absurd split (splitOn_ne_nil sep left)
        | cons piece pieces =>
            simp only [List.cons_append, splitOn, if_neg same, ih, split]

theorem split_on_piece_free (sep : CodePoint) (t : Text) : ∀ piece ∈ splitOn sep t, sep ∉ piece := by
  induction t with
  | nil => simp [splitOn]
  | cons c rest ih =>
      by_cases same : c = sep
      · simp only [splitOn, if_pos same]
        exact List.forall_mem_cons.mpr ⟨List.not_mem_nil, ih⟩
      · cases split : splitOn sep rest with
        | nil => exact absurd split (splitOn_ne_nil sep rest)
        | cons piece pieces =>
            rw [split] at ih
            obtain ⟨first, others⟩ := List.forall_mem_cons.mp ih
            simp only [splitOn, if_neg same, split]
            refine List.forall_mem_cons.mpr ⟨?_, others⟩
            intro member
            rcases List.mem_cons.mp member with hit | later
            · exact same hit.symm
            · exact first later

theorem join_cons (sep piece : Text) (pieces : List Text) (more : pieces ≠ []) :
    join sep (piece :: pieces) = piece ++ sep ++ join sep pieces := by
  cases pieces with
  | nil => contradiction
  | cons next pieces => rfl

theorem join_append (sep : Text) (left right : List Text) (nonempty : left ≠ []) (more : right ≠ []) :
    join sep (left ++ right) = join sep left ++ sep ++ join sep right := by
  induction left with
  | nil => contradiction
  | cons piece left ih =>
      rw [List.cons_append, join_cons sep piece (left ++ right) (by simp [more])]
      cases left with
      | nil => rfl
      | cons next left =>
          rw [ih (List.cons_ne_nil next left), join_cons sep piece (next :: left) (List.cons_ne_nil next left)]
          simp only [List.append_assoc]

theorem join_last_tail (sep last tail : Text) (pieces : List Text) :
    join sep (pieces ++ [last]) ++ tail = join sep (pieces ++ [last ++ tail]) := by
  cases pieces with
  | nil => rfl
  | cons piece pieces =>
      rw [join_append sep _ [last] (List.cons_ne_nil piece pieces) (List.cons_ne_nil _ _),
        join_append sep _ [last ++ tail] (List.cons_ne_nil piece pieces) (List.cons_ne_nil _ _)]
      simp [join]

theorem split_on_join (sep : CodePoint) (pieces : List Text) (nonempty : pieces ≠ [])
    (free : ∀ piece ∈ pieces, sep ∉ piece) : splitOn sep (join [sep] pieces) = pieces := by
  induction pieces with
  | nil => contradiction
  | cons piece pieces ih =>
      obtain ⟨first, others⟩ := List.forall_mem_cons.mp free
      cases pieces with
      | nil => exact split_on_free sep piece first
      | cons next pieces =>
          rw [join_cons [sep] piece _ (by simp), List.append_assoc, List.singleton_append,
            split_on_separator, split_on_free sep piece first, ih (by simp) others]
          rfl

end Text

namespace Path

def IsPart (part : Text) : Prop := part ≠ [] ∧ part ≠ dot ∧ slash ∉ part

instance (part : Text) : Decidable (IsPart part) :=
  inferInstanceAs (Decidable (part ≠ [] ∧ part ≠ dot ∧ slash ∉ part))

def IsName (part : Text) : Prop := IsPart part ∧ part ≠ dotDot

instance (part : Text) : Decidable (IsName part) := inferInstanceAs (Decidable (IsPart part ∧ part ≠ dotDot))

def keeps (part : Text) : Bool := part ≠ [] ∧ part ≠ dot

theorem of_text_parts (t : Text) : ∀ part ∈ (ofText t).parts, IsPart part := by
  intro part member
  obtain ⟨piece, kept⟩ := List.mem_filter.mp member
  have kept : part ≠ [] ∧ part ≠ dot := by simpa using kept
  exact ⟨kept.1, kept.2, Text.split_on_piece_free slash t part piece⟩

theorem filter_parts (parts : List Text) (clean : ∀ part ∈ parts, IsPart part) : parts.filter keeps = parts := by
  apply List.filter_eq_self.mpr
  intro part member
  have kept := clean part member
  simp [keeps, kept.1, kept.2.1]

theorem filter_split_root (root : Root) (t : Text) :
    (Text.splitOn slash (root.text ++ t)).filter keeps = (Text.splitOn slash t).filter keeps := by
  cases root <;> simp [Root.text, Text.splitOn, slash, keeps]

theorem filter_split_join (pieces : List Text) (free : ∀ piece ∈ pieces, slash ∉ piece) :
    (Text.splitOn slash (Text.join [slash] pieces)).filter keeps = pieces.filter keeps := by
  cases pieces with
  | nil => rfl
  | cons piece pieces => rw [Text.split_on_join slash _ (List.cons_ne_nil _ _) free]

theorem of_text_pieces (root : Root) (pieces : List Text) (free : ∀ piece ∈ pieces, slash ∉ piece) :
    (ofText (root.text ++ Text.join [slash] pieces)).parts = pieces.filter keeps := by
  change (Text.splitOn slash (root.text ++ Text.join [slash] pieces)).filter keeps = _
  rw [filter_split_root, filter_split_join pieces free]

theorem take_no_slashes (t : Text) (apart : t.head? ≠ some slash) : t.takeWhile (· = slash) = [] := by
  cases t with
  | nil => rfl
  | cons c rest =>
      have other : c ≠ slash := fun same => apart (by rw [same]; rfl)
      exact List.takeWhile_cons_of_neg (by simpa using other)

theorem root_of_text (root : Root) (t : Text) (apart : t.head? ≠ some slash) : rootOf (root.text ++ t) = root := by
  have slashes : (root.text ++ t).takeWhile (· = slash) = root.text := by
    rw [List.takeWhile_append_of_pos (by cases root <;> decide), take_no_slashes t apart, List.append_nil]
  rw [rootOf, slashes]
  cases root <;> rfl

theorem join_head (parts : List Text) (clean : ∀ part ∈ parts, IsPart part) :
    (Text.join [slash] parts).head? ≠ some slash := by
  cases parts with
  | nil => simp [Text.join]
  | cons part parts =>
      obtain ⟨nonempty, _, free⟩ := clean part List.mem_cons_self
      cases part with
      | nil => contradiction
      | cons c rest =>
          have other : c ≠ slash := fun same => free (by rw [same]; exact List.mem_cons_self)
          cases parts <;> simpa [Text.join] using other

theorem text_of_rooted (p : Path) (rooted : p.root ≠ .none) : p.text = p.root.text ++ Text.join [slash] p.parts := by
  obtain ⟨root, parts⟩ := p
  cases root with
  | none => contradiction
  | slash => rfl
  | twoSlashes => rfl

theorem text_of_parts (p : Path) (nonempty : p.parts ≠ []) : p.text = p.root.text ++ Text.join [slash] p.parts := by
  obtain ⟨root, parts⟩ := p
  cases parts with
  | nil => contradiction
  | cons part parts => cases root <;> rfl

theorem of_text_written (root : Root) (parts : List Text) (clean : ∀ part ∈ parts, IsPart part) :
    ofText (root.text ++ Text.join [slash] parts) = ⟨root, parts⟩ := by
  have named := of_text_pieces root parts (fun part member => (clean part member).2.2)
  rw [filter_parts parts clean] at named
  have start : (ofText (root.text ++ Text.join [slash] parts)).root = root :=
    root_of_text root _ (join_head parts clean)
  change (⟨(ofText _).root, (ofText _).parts⟩ : Path) = _
  rw [start, named]

theorem of_text_text (p : Path) (clean : ∀ part ∈ p.parts, IsPart part) : ofText p.text = p := by
  obtain ⟨root, parts⟩ := p
  cases parts with
  | nil => cases root <;> decide
  | cons part parts =>
      rw [text_of_parts _ (List.cons_ne_nil part parts)]
      exact of_text_written root (part :: parts) clean

theorem text_below (root : Root) (base : List Text) :
    ∃ lead, ∀ rest, rest ≠ [] → text ⟨root, base ++ rest⟩ = lead ++ text ⟨.none, rest⟩ := by
  cases base with
  | nil =>
      refine ⟨root.text, ?_⟩
      intro rest nonempty
      rw [List.nil_append, text_of_parts ⟨root, rest⟩ nonempty, text_of_parts ⟨.none, rest⟩ nonempty]
      rfl
  | cons part base =>
      refine ⟨root.text ++ Text.join [slash] (part :: base) ++ [slash], ?_⟩
      intro rest nonempty
      rw [text_of_parts ⟨root, part :: base ++ rest⟩ (by simp), text_of_parts ⟨.none, rest⟩ nonempty]
      simp only [Text.join_append [slash] (part :: base) rest (List.cons_ne_nil part base) nonempty, List.append_assoc]
      rfl

theorem mem_push (rooted : Bool) (stack : List Text) (part other : Text) (member : other ∈ push rooted stack part) :
    other = part ∨ other ∈ stack := by
  by_cases up : part = dotDot
  · cases stack with
    | nil =>
        cases rooted with
        | true => simp [push, up] at member
        | false => exact Or.inl (by simpa [push, up] using member)
    | cons top rest =>
        by_cases topUp : top = dotDot
        · simp only [push, if_pos up, if_pos topUp] at member
          rcases List.mem_cons.mp member with same | below
          · exact Or.inl (same.trans up.symm)
          · exact Or.inr below
        · simp only [push, if_pos up, if_neg topUp] at member
          exact Or.inr (List.mem_cons_of_mem top member)
  · simp only [push, if_neg up] at member
    exact List.mem_cons.mp member

theorem mem_foldl_push (rooted : Bool) (parts stack : List Text) (other : Text)
    (member : other ∈ parts.foldl (push rooted) stack) : other ∈ parts ∨ other ∈ stack := by
  induction parts generalizing stack with
  | nil => exact Or.inr member
  | cons part parts ih =>
      rcases ih (push rooted stack part) member with later | pushed
      · exact Or.inl (List.mem_cons_of_mem part later)
      · rcases mem_push rooted stack part other pushed with same | below
        · exact Or.inl (by rw [same]; exact List.mem_cons_self)
        · exact Or.inr below

theorem collapse_parts (p : Path) (part : Text) (member : part ∈ p.collapse.parts) : part ∈ p.parts := by
  rcases mem_foldl_push p.isAbsolute p.parts [] part (List.mem_reverse.mp member) with own | inStack
  · exact own
  · simp at inStack

theorem settled_rooted (stack : List Text) (settled : Settled true stack) : ∀ part ∈ stack, part ≠ dotDot := by
  induction stack with
  | nil => simp
  | cons part rest ih =>
      refine List.forall_mem_cons.mpr ⟨?_, ih settled.2⟩
      intro up
      have relative := (settled.1 up).1
      contradiction

-- Below a root nothing is left of `..`, also where a path climbs above it.
theorem collapse_rooted (p : Path) (rooted : p.isAbsolute = true) : ∀ part ∈ p.collapse.parts, part ≠ dotDot := by
  intro part member
  have settled : Settled p.isAbsolute (p.parts.foldl (push p.isAbsolute) []) := settled_foldl p.parts trivial
  rw [rooted] at settled
  apply settled_rooted _ settled part
  simpa only [collapse, rooted] using List.mem_reverse.mp member

theorem push_name (rooted : Bool) (stack : List Text) (part : Text) (name : part ≠ dotDot) :
    push rooted stack part = part :: stack := by
  simp only [push, if_neg name]

theorem foldl_push_names (rooted : Bool) (parts stack : List Text) (names : ∀ part ∈ parts, part ≠ dotDot) :
    parts.foldl (push rooted) stack = parts.reverse ++ stack := by
  induction parts generalizing stack with
  | nil => rfl
  | cons part parts ih =>
      obtain ⟨name, later⟩ := List.forall_mem_cons.mp names
      rw [List.foldl_cons, push_name rooted stack part name, ih _ later]
      simp

theorem collapse_names (p : Path) (names : ∀ part ∈ p.parts, part ≠ dotDot) : p.collapse = p := by
  rw [collapse, foldl_push_names p.isAbsolute p.parts [] names]
  simp

theorem collapse_clean (p : Path) (clean : ∀ part ∈ p.parts, IsPart part) :
    ∀ part ∈ p.collapse.parts, IsPart part :=
  fun part member => clean part (collapse_parts p part member)

theorem normalize_text (p : Path) (clean : ∀ part ∈ p.parts, IsPart part) : normalize p.text = p.collapse.text := by
  rw [normalize, of_text_text p clean]

theorem normalize_normalize (t : Text) : normalize (normalize t) = normalize t := by
  have clean := collapse_clean (ofText t) (of_text_parts t)
  change normalize (ofText t).collapse.text = (ofText t).collapse.text
  rw [normalize_text _ clean, collapse_collapse]

theorem join_end (parts : List Text) (nonempty : parts ≠ []) (clean : ∀ part ∈ parts, IsPart part) :
    ∃ start last, Text.join [slash] parts = start ++ [last] ∧ last ≠ slash := by
  obtain ⟨front, part, split⟩ := (List.eq_nil_or_concat parts).resolve_left nonempty
  rw [List.concat_eq_append] at split
  obtain ⟨nonempty, _, free⟩ := clean part (by rw [split]; simp)
  obtain ⟨letters, last, spelled⟩ := (List.eq_nil_or_concat part).resolve_left nonempty
  rw [List.concat_eq_append] at spelled
  refine ⟨Text.join [slash] (front ++ [letters]), last, ?_, ?_⟩
  · rw [Text.join_last_tail, ← spelled, ← split]
  · intro same
    exact free (by rw [spelled, same]; simp)

theorem before_last_slash (front name : Text) (free : slash ∉ name) :
    ((front ++ slash :: name).reverse.dropWhile (· ≠ slash)).reverse = front ++ [slash] := by
  have passed : ∀ point ∈ name.reverse, decide (point ≠ slash) = true := by
    intro point member
    have other : point ≠ slash := fun same => free (same ▸ List.mem_reverse.mp member)
    simpa using other
  rw [List.reverse_append, List.reverse_cons, List.append_assoc, List.dropWhile_append_of_pos passed]
  simp

theorem directory_of_child (p : Path) (name : Text) (rooted : p.root = .slash) (clean : ∀ part ∈ p.parts, IsPart part)
    (free : slash ∉ name) : directoryOf (p.child name).text = p.text := by
  obtain ⟨root, parts⟩ := p
  cases rooted
  cases parts with
  | nil =>
      have head := before_last_slash [] name free
      have text : (child ⟨.slash, []⟩ name).text = [] ++ slash :: name := rfl
      rw [directoryOf, text, head]
      rfl
  | cons part parts =>
      obtain ⟨start, last, ended, other⟩ := join_end (part :: parts) (List.cons_ne_nil part parts) clean
      have own : text ⟨.slash, part :: parts⟩ = slash :: start ++ [last] := by
        rw [text_of_rooted ⟨.slash, part :: parts⟩ (by simp), ended]
        rfl
      have below : (child ⟨.slash, part :: parts⟩ name).text = (slash :: start ++ [last]) ++ slash :: name := by
        rw [child, text_of_rooted ⟨.slash, part :: parts ++ [name]⟩ (by simp),
          Text.join_append [slash] (part :: parts) [name] (List.cons_ne_nil part parts) (List.cons_ne_nil _ _), ended]
        simp [Text.join]
        rfl
      have head := before_last_slash (slash :: start ++ [last]) name free
      rw [directoryOf, below, head, own]
      simp [other]

theorem parent_child (p : Path) (nonempty : p.parts ≠ []) : ∃ name ∈ p.parts, p.parent.child name = p := by
  obtain ⟨front, name, split⟩ := (List.eq_nil_or_concat p.parts).resolve_left nonempty
  rw [List.concat_eq_append] at split
  exact ⟨name, by rw [split]; simp, by rw [parent, child, split, List.dropLast_concat, ← split]⟩

theorem directory_of_text (p : Path) (rooted : p.root = .slash) (nonempty : p.parts ≠ [])
    (clean : ∀ part ∈ p.parts, IsPart part) : directoryOf p.text = p.parent.text := by
  obtain ⟨name, listed, whole⟩ := parent_child p nonempty
  have above (part : Text) (member : part ∈ p.parent.parts) : IsPart part :=
    clean part (List.dropLast_subset p.parts member)
  have directory := directory_of_child p.parent name rooted above (clean name listed).2.2
  rw [whole] at directory
  exact directory

end Path

end Linkage
