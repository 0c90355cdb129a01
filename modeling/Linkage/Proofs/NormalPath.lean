import Linkage.Proofs.PathText

set_option autoImplicit false

namespace Linkage

namespace Path

-- One or two slashes, and then components of which none is empty, a dot or two dots.
def NormalAbsolute (t : Text) : Prop :=
  normalize t = t ∧
    ∃ lead parts, (lead = [slash] ∨ lead = [slash, slash]) ∧ t = lead ++ Text.join [slash] parts ∧
      ∀ part ∈ parts, IsName part

theorem root_of_rooted (t : Text) (rooted : t.head? = some slash) : rootOf t ≠ .none := by
  cases t with
  | nil => contradiction
  | cons c rest =>
      have same : c = slash := by simpa using rooted
      rw [rootOf]
      split
      · rename_i unrooted
        simp [same] at unrooted
      · simp
      · simp

theorem rooted_lead (root : Root) (rooted : root ≠ .none) : root.text = [slash] ∨ root.text = [slash, slash] := by
  cases root with
  | none => contradiction
  | slash => exact Or.inl rfl
  | twoSlashes => exact Or.inr rfl

theorem normal_of_names (p : Path) (rooted : p.root ≠ .none) (names : ∀ part ∈ p.parts, IsName part) :
    NormalAbsolute p.text := by
  refine ⟨?_, p.root.text, p.parts, rooted_lead p.root rooted, text_of_rooted p rooted, names⟩
  rw [normalize_text p (fun part member => (names part member).1),
    collapse_names p (fun part member => (names part member).2)]

theorem part_append_ne (part tail : Text) (name : IsName part) : part ++ tail ≠ dotDot := by
  obtain ⟨⟨nonempty, notDot, _⟩, notUp⟩ := name
  intro same
  match part with
  | [] => contradiction
  | [a] =>
      have first : a = .scalar '.' := by simpa [dotDot] using congrArg List.head? same
      exact notDot (by rw [first]; rfl)
  | a :: b :: rest =>
      simp only [dotDot, List.cons_append, List.cons.injEq, List.append_eq_nil_iff] at same
      exact notUp (by rw [same.1, same.2.1, same.2.2.1]; rfl)

def Spelled (root : Root) (t : Text) : Prop :=
  ∃ pieces, t = root.text ++ Text.join [slash] pieces ∧ ∀ piece ∈ pieces, slash ∉ piece ∧ piece ≠ dotDot

theorem spelled_normal (root : Root) (t : Text) (rooted : root ≠ .none) (spelled : Spelled root t) :
    NormalAbsolute (ofText t).text := by
  obtain ⟨pieces, written, plain⟩ := spelled
  apply normal_of_names
  · apply root_of_rooted
    rw [written]
    rcases rooted_lead root rooted with lead | lead <;> rw [lead] <;> rfl
  · intro part member
    refine ⟨of_text_parts t part member, ?_⟩
    rw [written, of_text_pieces root pieces (fun piece inside => (plain piece inside).1)] at member
    exact (plain part (List.mem_filter.mp member).1).2

theorem spelled_names (p : Path) (rooted : p.root ≠ .none) (names : ∀ part ∈ p.parts, IsName part) :
    Spelled p.root p.text :=
  ⟨p.parts, text_of_rooted p rooted, fun part member => ⟨(names part member).1.2.2, (names part member).2⟩⟩

theorem spelled_tail (p : Path) (tail : Text) (rooted : p.root ≠ .none) (names : ∀ part ∈ p.parts, IsName part)
    (free : slash ∉ tail) (plain : tail ≠ dotDot) : Spelled p.root (p.text ++ tail) := by
  have plainParts := fun part member => And.intro (names part member).1.2.2 (names part member).2
  rw [text_of_rooted p rooted]
  -- Behind a bare root the tail is a piece of its own; elsewhere it lengthens the last piece.
  rcases List.eq_nil_or_concat p.parts with bare | ⟨front, last, split⟩
  · refine ⟨[tail], ?_, by simpa using ⟨free, plain⟩⟩
    rw [bare]
    simp [Text.join]
  · rw [List.concat_eq_append] at split
    rw [split] at names plainParts ⊢
    refine ⟨front ++ [last ++ tail], ?_, ?_⟩
    · rw [List.append_assoc, Text.join_last_tail]
    · intro piece member
      rcases List.mem_append.mp member with early | final
      · exact plainParts piece (List.mem_append_left _ early)
      · have name := names last (by simp)
        have whole : piece = last ++ tail := by simpa using final
        rw [whole]
        refine ⟨?_, part_append_ne last tail name⟩
        simp [name.1.2.2, free]

theorem spelled_child (p : Path) (child : Text) (rooted : p.root ≠ .none) (names : ∀ part ∈ p.parts, IsName part)
    (name : IsName child) : Spelled p.root (joinText p.text child) := by
  obtain ⟨first, rest, form⟩ := List.exists_cons_of_ne_nil name.1.1
  have relative : first ≠ slash := fun same => name.1.2.2 (by rw [form, same]; exact List.mem_cons_self)
  by_cases ends : p.text = [] ∨ p.text.getLast? = some slash
  · have joined : joinText p.text child = p.text ++ child := by
      rw [form]
      simp only [joinText, if_neg relative, if_pos ends]
    rw [joined]
    exact spelled_tail p child rooted names name.1.2.2 name.2
  · have joined : joinText p.text child = p.text ++ slash :: child := by
      rw [form]
      simp only [joinText, if_neg relative, if_neg ends]
    have below : p.parts ≠ [] := by
      intro bare
      apply ends
      rw [text_of_rooted p rooted, bare]
      rcases rooted_lead p.root rooted with lead | lead <;> rw [lead] <;> exact Or.inr rfl
    refine ⟨p.parts ++ [child], ?_, ?_⟩
    · rw [joined, text_of_rooted p rooted, Text.join_append [slash] p.parts [child] below (List.cons_ne_nil _ _)]
      simp [Text.join]
    · intro piece member
      rcases List.mem_append.mp member with own | last
      · exact ⟨(names piece own).1.2.2, (names piece own).2⟩
      · have same : piece = child := by simpa using last
        rw [same]
        exact ⟨name.1.2.2, name.2⟩

theorem join_text_rooted (head tail : Text) (rooted : head.head? = some slash) :
    (joinText head tail).head? = some slash := by
  have extended (more : Text) : (head ++ more).head? = some slash := by
    rw [List.head?_append, rooted]
    rfl
  cases tail with
  | nil =>
      by_cases ends : head = [] ∨ head.getLast? = some slash
      · rw [joinText, if_pos ends]
        exact rooted
      · rw [joinText, if_neg ends]
        exact extended [slash]
  | cons first rest =>
      by_cases own : first = slash
      · rw [joinText, if_pos own, own]
        rfl
      · by_cases ends : head = [] ∨ head.getLast? = some slash
        · rw [joinText, if_neg own, if_pos ends]
          exact extended (first :: rest)
        · rw [joinText, if_neg own, if_neg ends]
          exact extended (slash :: first :: rest)

end Path

end Linkage
