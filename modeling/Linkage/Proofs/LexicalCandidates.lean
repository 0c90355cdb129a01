import Linkage.Proofs.PathText
import Linkage.Resolver

set_option autoImplicit false

namespace Linkage

namespace Path

def lead (t : Text) : Text := t.takeWhile (· = slash)

def components (t : Text) : List Text :=
  if t.dropWhile (· = slash) = [] then [] else Text.splitOn slash (t.dropWhile (· = slash))

-- Components that lead nowhere: a dot, or a name and the way back.
inductive Idle : List Text → Prop where
  | dot : Idle [dot]
  | detour (name : Text) (named : IsName name) : Idle [name, dotDot]

theorem lead_slashes (t : Text) : ∀ point ∈ lead t, point = slash := by
  intro point member
  simpa using List.all_eq_true.mp List.all_takeWhile point member

theorem lead_components (t : Text) : lead t ++ Text.join [slash] (components t) = t := by
  have whole : lead t ++ t.dropWhile (· = slash) = t := List.takeWhile_append_dropWhile
  rw [components]
  split
  · rename_i empty
    rw [empty] at whole
    exact whole
  · rw [Text.join_splitOn]
    exact whole

theorem components_free (t : Text) : ∀ part ∈ components t, slash ∉ part := by
  rw [components]
  split
  · simp
  · exact Text.split_on_piece_free slash _

theorem split_on_head (point : CodePoint) (rest : Text) (other : point ≠ slash) :
    ∃ piece pieces, Text.splitOn slash (point :: rest) = (point :: piece) :: pieces := by
  rw [Text.splitOn, if_neg other]
  cases split : Text.splitOn slash rest with
  | nil => exact absurd split (Text.splitOn_ne_nil slash rest)
  | cons piece pieces => exact ⟨piece, pieces, rfl⟩

theorem components_head (t : Text) : (components t).head? ≠ some [] := by
  rw [components]
  split
  · simp
  · rename_i nonempty
    cases body : t.dropWhile (· = slash) with
    | nil => exact absurd body nonempty
    | cons point rest =>
        have other : point ≠ slash := by
          have first := List.head?_dropWhile_not (· = slash) t
          rw [body] at first
          simpa using first
        obtain ⟨piece, pieces, split⟩ := split_on_head point rest other
        rw [split]
        simp

theorem filter_split_slashes (slashes t : Text) (all : ∀ point ∈ slashes, point = slash) :
    (Text.splitOn slash (slashes ++ t)).filter keeps = (Text.splitOn slash t).filter keeps := by
  induction slashes with
  | nil => rfl
  | cons point slashes ih =>
      obtain ⟨same, others⟩ := List.forall_mem_cons.mp all
      rw [List.cons_append, Text.splitOn, if_pos same, List.filter_cons_of_neg (by simp [keeps])]
      exact ih others

theorem root_of_append (head tail : Text) (apart : tail.head? ≠ some slash) : rootOf (head ++ tail) = rootOf head := by
  have slashes : (head ++ tail).takeWhile (· = slash) = head.takeWhile (· = slash) := by
    rw [List.takeWhile_append, take_no_slashes tail apart, List.append_nil]
    split
    · rename_i all
      exact (List.takeWhile_sublist _).eq_of_length all |>.symm
    · rfl
  rw [rootOf, rootOf, slashes]

theorem root_of_front (front more : Text) (other : ∃ point ∈ front, point ≠ slash) :
    rootOf (front ++ more) = rootOf front := by
  have slashes : (front ++ more).takeWhile (· = slash) = front.takeWhile (· = slash) := by
    rw [List.takeWhile_append, if_neg]
    intro all
    have whole := (List.takeWhile_sublist (· = slash)).eq_of_length all
    obtain ⟨point, member, different⟩ := other
    rw [← whole] at member
    exact different (lead_slashes front point member)
  rw [rootOf, rootOf, slashes]

-- Any text is read off the slashes before its components and the components that count.
theorem of_text_spelled (slashes : Text) (pieces : List Text) (all : ∀ point ∈ slashes, point = slash)
    (free : ∀ piece ∈ pieces, slash ∉ piece) (begun : pieces.head? ≠ some []) :
    ofText (slashes ++ Text.join [slash] pieces) = ⟨rootOf slashes, pieces.filter keeps⟩ := by
  have apart : (Text.join [slash] pieces).head? ≠ some slash := by
    cases pieces with
    | nil => simp [Text.join]
    | cons piece pieces =>
        cases piece with
        | nil => simp at begun
        | cons point rest =>
            have other : point ≠ slash := fun same => free _ List.mem_cons_self (same ▸ List.mem_cons_self)
            cases pieces <;> simpa [Text.join] using other
  have parts : (ofText (slashes ++ Text.join [slash] pieces)).parts = pieces.filter keeps := by
    change (Text.splitOn slash (slashes ++ Text.join [slash] pieces)).filter keeps = _
    rw [filter_split_slashes slashes _ all, filter_split_join pieces free]
  have root : (ofText (slashes ++ Text.join [slash] pieces)).root = rootOf slashes := root_of_append slashes _ apart
  rw [← parts, ← root]

theorem of_text_components (t : Text) : ofText t = ⟨rootOf (lead t), (components t).filter keeps⟩ := by
  have spelled := of_text_spelled (lead t) (components t) (lead_slashes t) (components_free t) (components_head t)
  rw [lead_components t] at spelled
  exact spelled

theorem of_text_split (front back : Text) :
    (ofText (front ++ slash :: back)).parts = (ofText front).parts ++ (ofText back).parts := by
  change (Text.splitOn slash (front ++ slash :: back)).filter keeps = _
  rw [Text.split_on_separator, List.filter_append]
  rfl

theorem of_text_ended (front : Text) : (ofText (front ++ [slash])).parts = (ofText front).parts := by
  rw [of_text_split front []]
  exact List.append_nil _

theorem of_text_doubled (front back : Text) :
    (ofText (front ++ slash :: slash :: back)).parts = (ofText (front ++ slash :: back)).parts := by
  rw [of_text_split front (slash :: back), of_text_split front back]
  exact congrArg _ (of_text_split [] back)

theorem of_text_join (directory specifier : Text) (given : specifier ≠ []) (relative : specifier.head? ≠ some slash) :
    ofText (joinText directory specifier) =
      ⟨rootOf directory, (ofText directory).parts ++ (ofText specifier).parts⟩ := by
  obtain ⟨point, rest, rfl⟩ := List.exists_cons_of_ne_nil given
  have other : point ≠ slash := by simpa using relative
  suffices both : rootOf (joinText directory (point :: rest)) = rootOf directory ∧
      (ofText (joinText directory (point :: rest))).parts =
        (ofText directory).parts ++ (ofText (point :: rest)).parts by
    rw [← both.1, ← both.2]
    rfl
  by_cases ready : directory = [] ∨ directory.getLast? = some slash
  · simp only [joinText, if_neg other, if_pos ready]
    refine ⟨root_of_append directory _ relative, ?_⟩
    rcases ready with rfl | ended
    · rfl
    · obtain ⟨front, rfl⟩ := List.getLast?_eq_some_iff.mp ended
      rw [of_text_ended, List.append_assoc, List.singleton_append, of_text_split]
  · simp only [joinText, if_neg other, if_neg ready]
    obtain ⟨nonempty, open'⟩ := not_or.mp ready
    refine ⟨root_of_front directory _ ⟨directory.getLast nonempty, List.getLast_mem nonempty, ?_⟩, of_text_split _ _⟩
    intro same
    exact open' (by rw [List.getLast?_eq_some_getLast nonempty, same])

section Folds

variable (rooted : Bool) (stack : List Text)

theorem fold_idle (extra : List Text) (idle : Idle extra) : (extra.filter keeps).foldl (push rooted) stack = stack := by
  cases idle with
  | dot => rfl
  | detour name named =>
      have up : IsPart dotDot := by decide
      have clean := List.forall_mem_cons.mpr ⟨named.1, List.forall_mem_singleton.mpr up⟩
      rw [filter_parts _ clean, List.foldl_cons, push_name rooted stack name named.2]
      simp [push, named.2]

theorem fold_inserted (before extra after : List Text) (idle : Idle extra) :
    ((before ++ extra ++ after).filter keeps).foldl (push rooted) stack =
      ((before ++ after).filter keeps).foldl (push rooted) stack := by
  simp only [List.filter_append, List.foldl_append, fold_idle rooted _ extra idle]

end Folds

theorem of_text_normalize (t : Text) : ofText (normalize t) = (ofText t).collapse :=
  of_text_text _ (collapse_clean _ (of_text_parts t))

theorem idle_free (extra : List Text) (idle : Idle extra) : ∀ part ∈ extra, slash ∉ part := by
  cases idle with
  | dot => decide
  | detour name named =>
      refine List.forall_mem_cons.mpr ⟨named.1.2.2, ?_⟩
      decide

theorem inserted_free (before extra after : List Text) (idle : Idle extra)
    (free : ∀ part ∈ before ++ after, slash ∉ part) : ∀ part ∈ before ++ extra ++ after, slash ∉ part := by
  obtain ⟨front, back⟩ := List.forall_mem_append.mp free
  exact List.forall_mem_append.mpr ⟨List.forall_mem_append.mpr ⟨front, idle_free extra idle⟩, back⟩

theorem idle_head (extra rest : List Text) (idle : Idle extra) : (extra ++ rest).head? ≠ some [] := by
  cases idle with
  | dot => simp [dot]
  | detour name named => simpa using named.1.1

end Path

namespace Resolver

theorem relative_given (specifier : Text) (relative : isRelative specifier = true) :
    specifier ≠ [] ∧ specifier.head? ≠ some Path.slash := by
  have first : specifier.head? = some (.scalar '.') := eq_of_beq relative
  refine ⟨?_, ?_⟩
  · rintro rfl
    cases first
  · rw [first]
    decide

theorem base_eq (specifier directory : Text) (relative : isRelative specifier = true) :
    base specifier directory = Path.text ⟨Path.rootOf directory,
      ((Path.ofText specifier).parts.foldl (Path.push (Path.ofText directory).isAbsolute)
        ((Path.ofText directory).parts.foldl (Path.push (Path.ofText directory).isAbsolute) [])).reverse⟩ := by
  obtain ⟨given, apart⟩ := relative_given specifier relative
  rw [base, Path.normalize, Path.of_text_join directory specifier given apart, Path.collapse]
  simp only [List.foldl_append]
  rfl

-- A directory counts only by where it lies, a specifier by what it does to any place.
theorem base_directory (specifier directory other : Text) (relative : isRelative specifier = true)
    (same : (Path.ofText directory).collapse = (Path.ofText other).collapse) :
    base specifier directory = base specifier other := by
  have root : Path.rootOf directory = Path.rootOf other := congrArg Path.root same
  have stack := congrArg (fun p => p.parts.reverse) same
  simp only [Path.collapse, List.reverse_reverse] at stack
  have absolute : (Path.ofText directory).collapse.isAbsolute = (Path.ofText other).collapse.isAbsolute := by rw [same]
  change (Path.ofText directory).isAbsolute = (Path.ofText other).isAbsolute at absolute
  rw [base_eq specifier directory relative, base_eq specifier other relative, root, stack, absolute]

theorem base_specifier (specifier other directory : Text) (relative : isRelative specifier = true)
    (relativeOther : isRelative other = true)
    (same : ∀ rooted stack, (Path.ofText specifier).parts.foldl (Path.push rooted) stack =
      (Path.ofText other).parts.foldl (Path.push rooted) stack) :
    base specifier directory = base other directory := by
  rw [base_eq specifier directory relative, base_eq other directory relativeOther, same]

theorem candidates_base (extensions : List Text) (specifier other directory elsewhere : Text)
    (same : base specifier directory = base other elsewhere) :
    candidates extensions specifier directory = candidates extensions other elsewhere := by
  rw [candidates, candidates, same]

section Edits

variable (specifier directory : Text) (relative : isRelative specifier = true)

include relative

theorem base_normalized : base specifier (Path.normalize directory) = base specifier directory := by
  apply base_directory specifier _ _ relative
  rw [Path.of_text_normalize, Path.collapse_collapse]

theorem relative_first (first : Text) (pieces : List Text) (split : Text.splitOn Path.slash specifier = first :: pieces) :
    isRelative first = true := by
  obtain ⟨given, apart⟩ := relative_given specifier relative
  obtain ⟨point, rest, rfl⟩ := List.exists_cons_of_ne_nil given
  obtain ⟨piece, more, own⟩ := Path.split_on_head point rest (by simpa using apart)
  rw [own] at split
  cases split
  exact relative

theorem relative_append (more : Text) : isRelative (specifier ++ more) = true := by
  have first : specifier.head? = some (.scalar '.') := eq_of_beq relative
  rw [isRelative, List.head?_append, first]
  rfl

theorem relative_join (pieces : List Text) : isRelative (Text.join [Path.slash] (specifier :: pieces)) = true := by
  cases pieces with
  | nil => exact relative
  | cons piece pieces =>
      rw [Text.join_cons _ _ _ (List.cons_ne_nil piece pieces), List.append_assoc]
      exact relative_append specifier relative _

theorem base_specifier_inserted (first : Text) (before extra after : List Text) (idle : Path.Idle extra)
    (split : Text.splitOn Path.slash specifier = first :: (before ++ after)) :
    base (Text.join [Path.slash] (first :: (before ++ extra ++ after))) directory = base specifier directory := by
  have own := relative_first specifier relative first _ split
  have free := Text.split_on_piece_free Path.slash specifier
  rw [split] at free
  have allFree := Path.inserted_free (first :: before) extra after idle free
  have parts : (Path.ofText (Text.join [Path.slash] (first :: before ++ extra ++ after))).parts =
      (first :: before ++ extra ++ after).filter Path.keeps := Path.filter_split_join _ allFree
  have listed : (Path.ofText specifier).parts = (first :: before ++ after).filter Path.keeps := by
    rw [List.cons_append, ← split]
    rfl
  apply base_specifier _ _ directory (relative_join first own _) relative
  intro rooted stack
  have folded := Path.fold_inserted rooted stack (first :: before) extra after idle
  rw [← parts, ← listed] at folded
  exact folded

theorem base_directory_inserted (before extra after : List Text) (idle : Path.Idle extra)
    (split : Path.components directory = before ++ after) :
    base specifier (Path.lead directory ++ Text.join [Path.slash] (before ++ extra ++ after)) =
      base specifier directory := by
  have free := Path.components_free directory
  have begun := Path.components_head directory
  rw [split] at free begun
  have allFree := Path.inserted_free before extra after idle free
  have allBegun : (before ++ extra ++ after).head? ≠ some [] := by
    cases before with
    | nil => exact Path.idle_head extra after idle
    | cons first before => exact begun
  apply base_directory specifier _ _ relative
  rw [Path.of_text_spelled _ _ (Path.lead_slashes directory) allFree allBegun, Path.of_text_components directory, split]
  simp only [Path.collapse, Path.isAbsolute, Path.fold_inserted _ _ before extra after idle]

theorem base_specifier_doubled (front back : Text) (split : specifier = front ++ Path.slash :: back) :
    base (front ++ Path.slash :: Path.slash :: back) directory = base specifier directory := by
  subst split
  have own : isRelative front = true := by
    cases front with
    | nil => exact absurd rfl (relative_given _ relative).2
    | cons point front => exact relative
  apply base_specifier _ _ directory (relative_append front own _) relative
  intro rooted stack
  rw [Path.of_text_doubled]

theorem base_directory_doubled (front back : Text) (split : directory = front ++ Path.slash :: back)
    (inside : ∃ point ∈ front, point ≠ Path.slash) :
    base specifier (front ++ Path.slash :: Path.slash :: back) = base specifier directory := by
  subst split
  have root : (Path.ofText (front ++ Path.slash :: Path.slash :: back)).root =
      (Path.ofText (front ++ Path.slash :: back)).root :=
    (Path.root_of_front front _ inside).trans (Path.root_of_front front _ inside).symm
  apply base_directory specifier _ _ relative
  simp only [Path.collapse, Path.isAbsolute, root, Path.of_text_doubled]

theorem base_specifier_ended : base (specifier ++ [Path.slash]) directory = base specifier directory := by
  apply base_specifier _ _ directory (relative_append specifier relative _) relative
  intro rooted stack
  rw [Path.of_text_ended]

theorem candidates_lexical (extensions : List Text) :
    candidates extensions specifier (Path.normalize directory) = candidates extensions specifier directory ∧
    (∀ extra, Path.Idle extra →
      (∀ first before after, Text.splitOn Path.slash specifier = first :: (before ++ after) →
        candidates extensions (Text.join [Path.slash] (first :: (before ++ extra ++ after))) directory =
          candidates extensions specifier directory) ∧
      (∀ before after, Path.components directory = before ++ after →
        candidates extensions specifier (Path.lead directory ++ Text.join [Path.slash] (before ++ extra ++ after)) =
          candidates extensions specifier directory)) ∧
    (∀ front back, specifier = front ++ Path.slash :: back →
      candidates extensions (front ++ Path.slash :: Path.slash :: back) directory =
        candidates extensions specifier directory) ∧
    (∀ front back, directory = front ++ Path.slash :: back → (∃ point ∈ front, point ≠ Path.slash) →
      candidates extensions specifier (front ++ Path.slash :: Path.slash :: back) =
        candidates extensions specifier directory) ∧
    candidates extensions (specifier ++ [Path.slash]) directory = candidates extensions specifier directory ∧
    Path.normalize (base specifier directory) = base specifier directory := by
  refine ⟨?_, ?_, ?_, ?_, ?_, Path.normalize_normalize _⟩
  · exact candidates_base extensions _ _ _ _ (base_normalized specifier directory relative)
  · intro extra idle
    refine ⟨?_, ?_⟩
    · intro first before after split
      exact candidates_base extensions _ _ _ _
        (base_specifier_inserted specifier directory relative first before extra after idle split)
    · intro before after split
      exact candidates_base extensions _ _ _ _
        (base_directory_inserted specifier directory relative before extra after idle split)
  · intro front back split
    exact candidates_base extensions _ _ _ _ (base_specifier_doubled specifier directory relative front back split)
  · intro front back split inside
    exact candidates_base extensions _ _ _ _
      (base_directory_doubled specifier directory relative front back split inside)
  · exact candidates_base extensions _ _ _ _ (base_specifier_ended specifier directory relative)

end Edits

theorem candidates_lexical_climbing :
    isRelative (Text.ofString "../x") = true ∧
    candidates [Text.ofString ".js"] (Text.ofString "../x") (Path.normalize (Text.ofString "//a/../..")) =
      ["//x", "//x.js", "//x/index.js"].map Text.ofString ∧
    candidates [Text.ofString ".js"] (Text.ofString "../b/../x") (Text.ofString "//a/../..") =
      ["//x", "//x.js", "//x/index.js"].map Text.ofString ∧
    candidates [Text.ofString ".js"] (Text.ofString "../x") (Text.ofString "//b/../a/../..") =
      ["//x", "//x.js", "//x/index.js"].map Text.ofString := by
  have named : Path.IsName (Text.ofString "b") := by decide
  have relative : isRelative (Text.ofString "../x") = true := rfl
  have plain : candidates [Text.ofString ".js"] (Text.ofString "../x") (Text.ofString "//a/../..") =
      ["//x", "//x.js", "//x/index.js"].map Text.ofString := rfl
  obtain ⟨normal, inserted, _⟩ :=
    candidates_lexical (Text.ofString "../x") (Text.ofString "//a/../..") relative [Text.ofString ".js"]
  obtain ⟨inSpecifier, inDirectory⟩ := inserted _ (.detour (Text.ofString "b") named)
  refine ⟨relative, normal.trans plain, ?_, ?_⟩
  · exact (inSpecifier (Text.ofString "..") [] [Text.ofString "x"] rfl).trans plain
  · exact (inDirectory [] (["a", "..", ".."].map Text.ofString) rfl).trans plain

end Resolver

end Linkage
