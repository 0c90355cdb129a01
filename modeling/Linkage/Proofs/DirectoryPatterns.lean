import Linkage.Proofs.GlobLanguage
import Linkage.Proofs.IgnoreVerdict

set_option autoImplicit false

namespace Linkage

namespace GlobPart

def EndsWithSlash (parts : List GlobPart) : Prop :=
  ∃ front, (∀ part ∈ front, part.IsOpen) ∧ parts = front ++ [.char Glob.slash]

theorem ends_with_slash_append (left right : List GlobPart) (leftOpen : ∀ part ∈ left, part.IsOpen)
    (ended : EndsWithSlash right) : EndsWithSlash (left ++ right) := by
  obtain ⟨front, frontOpen, rfl⟩ := ended
  exact ⟨left ++ front, List.forall_mem_append.mpr ⟨leftOpen, frontOpen⟩, (List.append_assoc left front _).symm⟩

end GlobPart

namespace Matcher

def ForDirectories (m : Matcher) : Prop :=
  m = .never ∨ m = .anySlash ∨ ∃ parts, GlobPart.EndsWithSlash parts ∧ m = .glob parts

theorem accepts_by_slash (m : Matcher) (path : Text) (directories : m.ForDirectories) :
    m.accepts path = true ↔
      ∃ front back, path = front ++ Glob.slash :: back ∧ m.accepts (front ++ [Glob.slash]) = true := by
  rcases directories with rfl | rfl | ⟨_, ⟨parts, allOpen, rfl⟩, rfl⟩
  · simp [accepts]
  · have every (front : Text) : accepts (front ++ [Glob.slash]) .anySlash = true := by simp [accepts, Glob.isSlash]
    constructor
    · intro accepted
      obtain ⟨c, member, isSlash⟩ := List.any_eq_true.mp accepted
      rw [Glob.is_slash_iff] at isSlash
      obtain ⟨front, back, rfl⟩ := List.append_of_mem (isSlash ▸ member)
      exact ⟨front, back, rfl, every front⟩
    · rintro ⟨front, back, rfl, _⟩
      simp [accepts, Glob.isSlash]
  · simp only [accepts, Glob.matches_slash parts _ allOpen]
    constructor
    · rintro ⟨front, back, rfl, taken⟩
      exact ⟨front, back, rfl, front, [], rfl, taken⟩
    · rintro ⟨_, back, rfl, front, more, split, taken⟩
      -- The slash that the match ends with may come before the one at the end.
      rcases List.eq_nil_or_concat more with rfl | ⟨more, last, rfl⟩
      · obtain ⟨rfl, _⟩ := List.append_inj' split rfl
        exact ⟨_, back, rfl, taken⟩
      · rw [List.concat_eq_append, ← List.cons_append, ← List.append_assoc] at split
        obtain ⟨rfl, _⟩ := List.append_inj' split rfl
        exact ⟨front, more ++ Glob.slash :: back, by simp, taken⟩

end Matcher

namespace IgnorePattern

section Parts

theorem cons_open (part : GlobPart) (later : Option (List GlobPart)) (parts : List GlobPart) (isOpen : part.IsOpen)
    (others : ∀ rest, later = some rest → ∀ other ∈ rest, other.IsOpen)
    (read : (do return part :: (← later)) = some parts) : ∀ other ∈ parts, other.IsOpen := by
  obtain ⟨rest, found, same⟩ := Option.bind_eq_some_iff.mp read
  cases same
  exact List.forall_mem_cons.mpr ⟨isOpen, others rest found⟩

theorem component_parts_open (fuel : Nat) (t : Text) (parts : List GlobPart)
    (read : componentParts fuel t = some parts) : ∀ part ∈ parts, part.IsOpen := by
  induction fuel generalizing t parts with
  | zero =>
      cases read
      simp
  | succ fuel ih =>
      cases t with
      | nil =>
          cases read
          simp
      | cons c rest =>
          simp only [componentParts] at read
          split at read
          · cases rest with
            | nil => cases read
            | cons quoted more => exact cons_open (.char quoted) _ parts trivial (ih more) read
          · split at read
            · exact cons_open .run _ parts trivial (ih rest) read
            · split at read
              · exact cons_open .any _ parts trivial (ih rest) read
              · split at read
                · split at read
                  · exact cons_open (.oneOf _ _) _ parts trivial (ih _) read
                  · exact cons_open (.char c) _ parts trivial (ih rest) read
                · exact cons_open (.char c) _ parts trivial (ih rest) read

theorem own_parts_open (component : Text) (parts : List GlobPart)
    (read : laterParts.ownParts component false = some parts) : ∀ part ∈ parts, part.IsOpen := by
  rw [laterParts.ownParts] at read
  split at read
  · cases read
    simp [GlobPart.IsOpen]
  · obtain ⟨own, found, same⟩ := Option.bind_eq_some_iff.mp read
    cases same
    simpa using component_parts_open _ component own found

theorem later_parts_directory (front : List Text) (parts : List GlobPart)
    (read : laterParts (front ++ [doubleStar]) = some parts) : GlobPart.EndsWithSlash parts := by
  induction front generalizing parts with
  | nil =>
      cases read
      exact ⟨[], by simp, rfl⟩
  | cons component front ih =>
      have more : (front ++ [doubleStar]).isEmpty = false := by simp
      rw [List.cons_append, laterParts, more] at read
      split at read
      · obtain ⟨rest, found, same⟩ := Option.bind_eq_some_iff.mp read
        cases same
        exact GlobPart.ends_with_slash_append [.between] rest (by simp [GlobPart.IsOpen]) (ih rest found)
      · obtain ⟨own, ownRead, read⟩ := Option.bind_eq_some_iff.mp read
        obtain ⟨rest, found, same⟩ := Option.bind_eq_some_iff.mp read
        cases same
        refine GlobPart.ends_with_slash_append (.char Glob.slash :: own) rest ?_ (ih rest found)
        exact List.forall_mem_cons.mpr ⟨trivial, own_parts_open component own ownRead⟩

theorem all_parts_directory (first : Text) (front : List Text) (parts : List GlobPart)
    (apart : first = doubleStar → front ≠ []) (read : allParts (first :: (front ++ [doubleStar])) = some parts) :
    GlobPart.EndsWithSlash parts := by
  simp only [allParts] at read
  split at read
  · rename_i starred
    obtain ⟨next, front, rfl⟩ := List.exists_cons_of_ne_nil (apart starred)
    rw [List.cons_append] at read
    obtain ⟨own, ownRead, read⟩ := Option.bind_eq_some_iff.mp read
    obtain ⟨rest, found, same⟩ := Option.bind_eq_some_iff.mp read
    cases same
    have more : (front ++ [doubleStar]).isEmpty = false := by simp
    rw [more] at ownRead
    refine GlobPart.ends_with_slash_append (.directories :: own) rest ?_ (later_parts_directory front rest found)
    exact List.forall_mem_cons.mpr ⟨trivial, own_parts_open next own ownRead⟩
  · have more : (front ++ [doubleStar]).isEmpty = false := by simp
    rw [more] at read
    obtain ⟨own, ownRead, read⟩ := Option.bind_eq_some_iff.mp read
    obtain ⟨rest, found, same⟩ := Option.bind_eq_some_iff.mp read
    cases same
    exact GlobPart.ends_with_slash_append own rest (own_parts_open first own ownRead)
      (later_parts_directory front rest found)

end Parts

theorem collapse_last (front : List Text) :
    ∃ kept, collapseStars (front ++ [doubleStar]) = kept ++ [doubleStar] := by
  induction front with
  | nil => exact ⟨[], rfl⟩
  | cons component front ih =>
      obtain ⟨kept, collapsed⟩ := ih
      rw [List.cons_append, collapseStars, collapsed]
      cases kept with
      | nil =>
          by_cases starred : component = doubleStar
          · exact ⟨[], by simp [starred]⟩
          · exact ⟨[component], by simp [starred]⟩
      | cons next kept =>
          by_cases both : component = doubleStar ∧ next = doubleStar
          · exact ⟨component :: kept, by simp [both]⟩
          · exact ⟨component :: next :: kept, by simp [both]⟩

theorem collapse_apart (components : List Text) (first second : Text) (rest : List Text)
    (collapsed : collapseStars components = first :: second :: rest) :
    ¬ (first = doubleStar ∧ second = doubleStar) := by
  induction components generalizing first second rest with
  | nil => cases collapsed
  | cons component components ih =>
      rw [collapseStars] at collapsed
      split at collapsed
      · cases collapsed
      · rename_i next more later
        split at collapsed
        · rename_i both
          cases collapsed
          intro again
          exact ih next second rest later ⟨both.2, again.2⟩
        · rename_i apart
          cases collapsed
          exact apart

theorem components_directory (t : Text) :
    ∃ front, components (t ++ [Glob.slash]) = collapseStars (front ++ [doubleStar]) := by
  have written : Text.splitOn Glob.slash (t ++ [Glob.slash]) = Text.splitOn Glob.slash t ++ [[]] :=
    Text.split_on_separator Glob.slash t []
  obtain ⟨piece, pieces, split⟩ := List.exists_cons_of_ne_nil (Text.splitOn_ne_nil Glob.slash t)
  rw [split, List.cons_append] at written
  simp only [components, written]
  cases piece with
  | nil => exact ⟨pieces, by simp⟩
  | cons c piece =>
      cases pieces with
      | nil =>
          by_cases starred : c :: piece = doubleStar
          · exact ⟨[c :: piece], by simp only [List.nil_append, if_pos starred]; rfl⟩
          · exact ⟨[doubleStar, c :: piece], by simp only [List.nil_append, if_neg starred]; rfl⟩
      | cons next pieces =>
          refine ⟨(c :: piece) :: next :: pieces, ?_⟩
          cases pieces with
          | nil => simp
          | cons third pieces =>
              have last : (third :: (pieces ++ [[]])).getLast? = some [] := by
                rw [← List.cons_append, List.getLast?_concat]
              have others : (third :: (pieces ++ [[]])).dropLast = third :: pieces := by
                rw [← List.cons_append, List.dropLast_concat]
              simp [last, others]

theorem matcher_directory (t : Text) (m : Matcher) (other : t ≠ [Glob.slash])
    (ended : t.getLast? = some Glob.slash) (read : matcher? t = some m) : m.ForDirectories := by
  obtain ⟨start, rfl⟩ := List.getLast?_eq_some_iff.mp ended
  obtain ⟨written, full⟩ := components_directory start
  obtain ⟨kept, collapsed⟩ := collapse_last written
  have apart := collapse_apart (written ++ [doubleStar])
  rw [collapsed] at full apart
  have globbed (first : Text) (front : List Text) (whole : kept = first :: front)
      (found : (allParts (first :: (front ++ [doubleStar]))).map Matcher.glob = some m) : m.ForDirectories := by
    obtain ⟨parts, spelled, rfl⟩ := Option.map_eq_some_iff.mp found
    refine Or.inr (Or.inr ⟨parts, all_parts_directory first front parts ?_ spelled, rfl⟩)
    rintro starred rfl
    exact apart first doubleStar [] (by rw [whole]; rfl) ⟨starred, rfl⟩
  rw [matcher?] at read
  simp only [full, other, ended, ne_eq, not_false_eq_true, and_self, if_true] at read
  cases kept with
  | nil =>
      cases read
      exact Or.inr (Or.inl rfl)
  | cons first front =>
      have plain : doubleStar ≠ [star] := by decide
      cases front with
      | nil =>
          simp only [List.cons_append, List.nil_append, plain, and_false, if_false] at read
          exact globbed first [] rfl read
      | cons second front =>
          cases front with
          | nil =>
              simp only [List.cons_append, List.nil_append] at read
              split at read
              · cases read
                exact Or.inr (Or.inl rfl)
              · exact globbed first [second] rfl read
          | cons third front =>
              cases front <;> exact globbed first (second :: third :: _) rfl read

-- A line without the blanks at its end and without its negation.
def body (line : Text) : Text :=
  if (trimmed line).head?.any (·.is '!') then (trimmed line).tail else trimmed line

theorem of_text_read (line : Text) (pattern : IgnorePattern) (read : ofText line = .ok pattern) :
    pattern.matcher = .never ∨ matcher? (body line) = some pattern.matcher := by
  simp only [ofText] at read
  split at read
  · cases read
    exact Or.inl rfl
  · rename_i first rest shown
    split at read
    · cases read
      exact Or.inl rfl
    · have own : body line = if first.is '!' then rest else first :: rest := by
        rw [body, shown]
        rfl
      split at read
      · cases read
      · rename_i m found
        split at read
        · cases read
          exact Or.inr (by rw [own, found])
        · cases read

theorem trimmed_slash (t : Text) : trimmed (t ++ [Glob.slash]) = t ++ [Glob.slash] := by
  have quoted : (Text.ofString " \\").isPrefixOf (t ++ [Glob.slash]).reverse = false := by
    rw [List.reverse_append]
    rfl
  have blank : Glob.slash.isBlank = false := by decide
  rw [trimmed, quoted, Text.trimEnd, Text.dropEndWhile, List.reverse_append]
  simp [blank]

-- A slash alone stands for anything.
theorem of_text_directory (t : Text) (pattern : IgnorePattern) (bare : t ≠ [] ∧ t ≠ [.scalar '!'])
    (read : ofText (t ++ [Glob.slash]) = .ok pattern) : pattern.matcher.ForDirectories := by
  rcases of_text_read _ pattern read with never | found
  · exact Or.inl never
  · rw [body, trimmed_slash] at found
    obtain ⟨first, rest, rfl⟩ := List.exists_cons_of_ne_nil bare.1
    split at found
    · rename_i negation
      have mark : first = .scalar '!' := by simpa [CodePoint.is] using negation
      have more : rest ≠ [] := by
        rintro rfl
        exact bare.2 (by rw [mark])
      exact matcher_directory (rest ++ [Glob.slash]) _ (by simpa using more) List.getLast?_concat found
    · exact matcher_directory _ _ (by simp) List.getLast?_concat found

end IgnorePattern

namespace Text

-- What stands before a slash of a path are its first components.
theorem join_split_iff (sep : CodePoint) (pieces : List Text) (front back : Text) (inside : pieces ≠ [])
    (free : ∀ piece ∈ pieces, sep ∉ piece) :
    join [sep] pieces = front ++ sep :: back ↔
      ∃ left right, pieces = left ++ right ∧ left ≠ [] ∧ right ≠ [] ∧ join [sep] left = front ∧
        join [sep] right = back := by
  constructor
  · intro written
    refine ⟨splitOn sep front, splitOn sep back, ?_, splitOn_ne_nil sep front, splitOn_ne_nil sep back,
      join_splitOn sep front, join_splitOn sep back⟩
    rw [← split_on_separator, ← written, split_on_join sep pieces inside free]
  · rintro ⟨left, right, rfl, leftSome, rightSome, rfl, rfl⟩
    rw [join_append [sep] left right leftSome rightSome, List.append_assoc, List.singleton_append]

end Text

namespace LineReader

-- A line that ends with a slash hits a path only through a directory above it.
def ThroughDirectories (read : LineReader) (rest : List Text) (line : Text) : Prop :=
  line.getLast? = some Path.slash → ∀ own, read line = some own → own.hits (Path.text ⟨.none, rest⟩) = true →
    ∃ above below, rest = above ++ below ∧ above ≠ [] ∧ below ≠ [] ∧
      own.hits (Path.text ⟨.none, above⟩ ++ [Path.slash]) = true

-- What it is for a line to match a file: one that ends with a slash is for directories alone.
def CatchingFile (rest : List Text) : Catching := fun line own =>
  own.hits (Path.text ⟨.none, rest⟩) = true ∧ (line.getLast? = some Path.slash →
    ∃ above below, rest = above ++ below ∧ above ≠ [] ∧ below ≠ [] ∧
      own.hits (Path.text ⟨.none, above⟩ ++ [Path.slash]) = true)

def CatchingDirectory (rest : List Text) : Catching := Hitting (Path.text ⟨.none, rest⟩ ++ [Path.slash])

theorem hitting_file_iff (read : LineReader) (rest : List Text) (line : Text) (own : IgnoreLine)
    (known : read line = some own) (through : read.ThroughDirectories rest line) :
    Hitting (Path.text ⟨.none, rest⟩) line own ↔ CatchingFile rest line own := by
  constructor
  · intro hit
    exact ⟨hit, fun ended => through ended own known hit⟩
  · intro caught
    exact caught.1

end LineReader

namespace IgnorePatterns

theorem line_through_directories (rest : List Text) (text : Text) (inside : rest ≠ [])
    (clean : ∀ part ∈ rest, Path.IsPart part) (bare : text ≠ [Glob.slash] ∧ text ≠ [.scalar '!', Glob.slash]) :
    line.ThroughDirectories rest text := by
  intro ended own known hit
  have free : ∀ part ∈ rest, Glob.slash ∉ part := fun part member => (clean part member).2.2
  have written (parts : List Text) (nonempty : parts ≠ []) : Path.text ⟨.none, parts⟩ = Text.join [Glob.slash] parts :=
    Path.text_of_parts ⟨.none, parts⟩ nonempty
  obtain ⟨pattern, read, rfl⟩ := line_known text own known
  obtain ⟨start, rfl⟩ := List.getLast?_eq_some_iff.mp ended
  have form := IgnorePattern.of_text_directory start pattern
    ⟨fun empty => bare.1 (by rw [empty]; rfl), fun mark => bare.2 (by rw [mark]; rfl)⟩ read
  have plain := without_dot_names rest [] inside clean
  rw [List.append_nil] at plain
  simp only [plain] at hit
  rw [Matcher.accepts_by_slash _ _ form, written rest inside] at hit
  obtain ⟨front, back, split, accepted⟩ := hit
  obtain ⟨above, below, parted, aboveInside, belowInside, rfl, _⟩ :=
    (Text.join_split_iff Glob.slash rest front back inside free).mp split
  have aboveClean : ∀ part ∈ above, Path.IsPart part :=
    fun part member => clean part (parted ▸ List.mem_append_left below member)
  refine ⟨above, below, parted, aboveInside, belowInside, ?_⟩
  simp only [without_dot_names above [Path.slash] aboveInside aboveClean]
  rw [written above aboveInside]
  exact accepted

end IgnorePatterns

namespace Project

open LineReader

theorem ignores_file (host : Host) (read : LineReader) (last : LastDecides host.compile read)
    (lines : List Text) (valid : ∀ line ∈ lines, read.Valid line) (project path base file : Path) (content : Bytes)
    (rest : List Text) (based : host.settle project = .ok base) (finds : host.Finds path file (.file content))
    (beneath : file = ⟨base.root, base.parts ++ rest⟩)
    (through : ∀ line ∈ lines, read.ThroughDirectories rest line) :
    ∃ rules, host.compile (lines.map .str) = .ok rules ∧
      (ignores host rules project path = true ↔
        read.Decides (CatchingFile rest) lines ∨ read.Decides (CatchingDirectory rest) lines) ∧
      ((∀ line ∈ lines, ∀ own, read line = some own →
          (CatchingDirectory rest line own ↔ CatchingFile rest line own)) →
        (ignores host rules project path = true ↔ read.Decides (CatchingFile rest) lines)) := by
  obtain ⟨rules, compiled, said⟩ := last lines valid
  have settled := finds.settled
  rw [beneath] at settled
  have both : ignores host rules project path = true ↔
      read.Decides (CatchingFile rest) lines ∨ read.Decides (CatchingDirectory rest) lines := by
    rw [ignores_below host rules project path base rest based settled, said, said, CatchingDirectory,
      read.decides_congr _ _ lines fun line listed own known =>
        read.hitting_file_iff rest line own known (through line listed)]
  refine ⟨rules, compiled, both, ?_⟩
  intro alike
  rw [both, read.decides_congr _ _ lines alike, or_self]

def vendored : Host :=
  .bundled [(Text.ofString "p", .directory
      [(Text.ofString "vendor", .directory [(Text.ofString "a.js", .file []), (Text.ofString "keep.js", .file [])]),
       (Text.ofString "build.js", .file [])])]
    ⟨.slash, [Text.ofString "p"]⟩ ⟨.slash, [Text.ofString "h"]⟩

def vendoredProject : Path := ⟨.slash, [Text.ofString "p"]⟩

def vendoredLines : List Text := [Text.ofString "vendor/", Text.ofString "!keep.js"]

theorem vendored_sound : vendored.Sound := ⟨rfl, by decide⟩

theorem vendored_valid : ∀ line ∈ vendoredLines, IgnorePatterns.line.Valid line := by
  simp only [vendoredLines, List.forall_mem_cons]
  exact ⟨⟨_, rfl⟩, ⟨_, rfl⟩, by simp⟩

theorem vendored_through (rest : List Text) (inside : rest ≠ []) (clean : ∀ part ∈ rest, Path.IsPart part) :
    ∀ line ∈ vendoredLines, IgnorePatterns.line.ThroughDirectories rest line := by
  intro line listed
  refine IgnorePatterns.line_through_directories rest line inside clean ?_
  revert line
  decide

theorem ignores_file_vendored :
    ∃ rules, vendored.compile (vendoredLines.map .str) = .ok rules ∧
      ignores vendored rules vendoredProject ⟨.none, [Text.ofString "vendor", Text.ofString "a.js"]⟩ = true ∧
      IgnorePatterns.line.Decides (CatchingFile [Text.ofString "vendor", Text.ofString "a.js"]) vendoredLines ∧
      ¬ IgnorePatterns.line.Decides (CatchingFile [Text.ofString "vendor", Text.ofString "keep.js"]) vendoredLines := by
  have clean (last : Text) (part : Path.IsPart last) : ∀ part ∈ [Text.ofString "vendor", last], Path.IsPart part := by
    exact List.forall_mem_cons.mpr ⟨by decide, List.forall_mem_cons.mpr ⟨part, by simp⟩⟩
  have answers (last : Text) (part : Path.IsPart last)
      (finds : vendored.Finds ⟨.none, [Text.ofString "vendor", last]⟩
        ⟨.slash, [Text.ofString "p", Text.ofString "vendor", last]⟩ (.file [])) :=
    ignores_file vendored IgnorePatterns.line IgnorePatterns.last_decides vendoredLines vendored_valid
      vendoredProject ⟨.none, [Text.ofString "vendor", last]⟩ vendoredProject _ [] [Text.ofString "vendor", last] rfl
      finds rfl (vendored_through _ (by simp) (clean last part))
  obtain ⟨rules, compiled, hidden⟩ := answers (Text.ofString "a.js") (by decide) ⟨rfl, rfl⟩
  obtain ⟨others, otherCompiled, kept⟩ := answers (Text.ofString "keep.js") (by decide) ⟨rfl, rfl⟩
  have caught : IgnorePatterns.line.Decides (CatchingFile [Text.ofString "vendor", Text.ofString "a.js"])
      vendoredLines := by
    refine ⟨[], Text.ofString "vendor/", [Text.ofString "!keep.js"], _, rfl, rfl, ⟨by decide, fun _ =>
      ⟨[Text.ofString "vendor"], [Text.ofString "a.js"], rfl, by decide, by decide, by decide⟩⟩, rfl, ?_⟩
    intro line listed own known caught
    rw [List.mem_singleton.mp listed] at known
    cases known
    exact absurd caught.1 (by decide)
  refine ⟨rules, compiled, hidden.1.mpr (Or.inl caught), caught, ?_⟩
  intro decided
  have hit := kept.1.mpr (Or.inl decided)
  cases otherCompiled
  revert hit
  decide

theorem directory_line_hides_file :
    vendored.Sound ∧ ∃ rules own, LastDecides vendored.compile IgnorePatterns.line ∧
      vendored.compile ([Text.ofString "build.js/"].map .str) = .ok rules ∧
      IgnorePatterns.line (Text.ofString "build.js/") = some own ∧
      vendored.look ⟨.slash, [Text.ofString "p", Text.ofString "build.js"]⟩ = .ok (some (.file [])) ∧
      ignores vendored rules vendoredProject ⟨.slash, [Text.ofString "p", Text.ofString "build.js"]⟩ = true ∧
      own.hits (Path.text ⟨.none, [Text.ofString "build.js"]⟩) = false ∧
      ¬ IgnorePatterns.line.Decides (CatchingFile [Text.ofString "build.js"]) [Text.ofString "build.js/"] := by
  refine ⟨vendored_sound, _, _, IgnorePatterns.last_decides, rfl, rfl, rfl, by decide, by decide, ?_⟩
  rintro ⟨front, line, back, own, split, known, caught, _⟩
  have only : line = Text.ofString "build.js/" := by
    have listed : line ∈ [Text.ofString "build.js/"] := split ▸ List.mem_append_right front List.mem_cons_self
    exact List.mem_singleton.mp listed
  rw [only] at known
  cases known
  exact absurd caught.1 (by decide)

end Project

end Linkage
