import Linkage.Proofs.PlaceLookup

set_option autoImplicit false

namespace Linkage

namespace FileTree

inductive ChangedAt : List Text → Entry → Entry → Prop where
  | file (old fresh : Bytes) : ChangedAt [] (.file old) (.file fresh)
  | directory (name : Text) (way : List Text) (entries : FileTree) (inner fresh : Entry)
      (present : entry? name entries = some inner) (below : ChangedAt way inner fresh) :
      ChangedAt (name :: way) (.directory entries) (.directory (setEntry name fresh entries))

def AlikeAt (way place : List Text) (here there : Entry) : Prop :=
  there = here ∨ ∃ rest, way = place ++ rest ∧ ChangedAt rest here there

theorem put_changed (way : List Text) (tree : FileTree) (above : List Entry) (old fresh : Bytes)
    (names : ∀ part ∈ way, part ≠ Path.dotDot) (reached : follow (.directory tree) above way = .ok (.file old)) :
    ChangedAt way (.directory tree) (.directory (tree.put (.file fresh) way)) := by
  induction way generalizing tree above with
  | nil => cases reached
  | cons name way ih =>
      obtain ⟨named, later⟩ := List.forall_mem_cons.mp names
      rw [follow_name name way tree above named] at reached
      split at reached
      · cases reached
      · split at reached
        · cases reached
        · rename_i next present
          cases way with
          | nil =>
              cases reached
              exact .directory name [] tree _ _ present (.file old fresh)
          | cons part parts =>
              cases next with
              | file content => cases reached
              | directory entries =>
                  have own : entriesOf name tree = entries := by simp only [entriesOf, present]
                  rw [put, own]
                  exact .directory name (part :: parts) tree _ _ present (ih entries _ later reached)

theorem names_set_entry (name : Text) (inner fresh : Entry) (entries : FileTree)
    (present : entry? name entries = some inner) :
    (setEntry name fresh entries).map Prod.fst = entries.map Prod.fst := by
  induction entries with
  | nil => cases present
  | cons first rest ih =>
      obtain ⟨other, entry⟩ := first
      by_cases hit : other = name
      · rw [setEntry, if_pos hit, List.map_cons, List.map_cons, hit]
      · rw [ entry?, if_neg hit] at present
        rw [setEntry, if_neg hit, List.map_cons, List.map_cons, ih present]

theorem within_each_set_entry (here : Path) (name : Text) (inner fresh : Entry) (entries : FileTree)
    (present : entry? name entries = some inner)
    (same : within (here.child name) fresh = within (here.child name) inner) :
    withinEach here (setEntry name fresh entries) = withinEach here entries := by
  induction entries with
  | nil => cases present
  | cons first rest ih =>
      obtain ⟨other, entry⟩ := first
      by_cases hit : other = name
      · rw [ entry?, if_pos hit] at present
        cases present
        rw [setEntry, if_pos hit, withinEach, withinEach, hit, same]
      · rw [ entry?, if_neg hit] at present
        rw [setEntry, if_neg hit, withinEach, withinEach, ih present]

theorem within_changed (way : List Text) (here there : Entry) (place : Path) (changed : ChangedAt way here there) :
    within place there = within place here := by
  induction changed generalizing place with
  | file old fresh => rfl
  | directory name way entries inner fresh present below ih =>
      have own (others : FileTree) : others.map (fun entry => place.child entry.1) =
          (others.map Prod.fst).map place.child := by rw [List.map_map]; rfl
      rw [within, within, own, own, names_set_entry name inner fresh entries present,
        within_each_set_entry place name inner fresh entries present (ih (place.child name))]

theorem alike_file (way place : List Text) (content : Bytes) (there : Entry)
    (alike : AlikeAt way place (.file content) there) :
    ∃ other, there = .file other ∧ (place ≠ way → other = content) := by
  rcases alike with same | ⟨rest, whole, changed⟩
  · exact ⟨content, same, fun _ => rfl⟩
  · cases changed with
    | file _ fresh =>
        refine ⟨fresh, rfl, ?_⟩
        intro elsewhere
        exact absurd (by simpa using whole.symm) elsewhere

theorem alike_directory (way place : List Text) (entries : FileTree) (there : Entry)
    (alike : AlikeAt way place (.directory entries) there) : ∃ others, there = .directory others := by
  rcases alike with same | ⟨rest, _, changed⟩
  · exact ⟨entries, same⟩
  · cases changed with
    | directory name way entries inner fresh present below => exact ⟨_, rfl⟩

theorem alike_is_file (way place : List Text) (here there : Entry) (alike : AlikeAt way place here there) :
    there.isFile = here.isFile := by
  cases here with
  | file content =>
      obtain ⟨other, form, _⟩ := alike_file way place content there alike
      rw [form]
      rfl
  | directory entries =>
      obtain ⟨others, form⟩ := alike_directory way place entries there alike
      rw [form]
      rfl

theorem alike_within (way place : List Text) (here there : Entry) (at_ : Path) (alike : AlikeAt way place here there) :
    within at_ there = within at_ here := by
  rcases alike with same | ⟨rest, _, changed⟩
  · rw [same]
  · exact within_changed rest here there at_ changed

theorem alike_entry (way place : List Text) (entries others : FileTree) (name : Text)
    (alike : AlikeAt way place (.directory entries) (.directory others)) :
    ( entry? name entries = none ∧ entry? name others = none) ∨
      ∃ here there, entry? name entries = some here ∧ entry? name others = some there ∧
        AlikeAt way (place ++ [name]) here there := by
  rcases alike with same | ⟨rest, whole, changed⟩
  · cases same
    cases present : entry? name entries with
    | none => exact Or.inl ⟨rfl, rfl⟩
    | some here => exact Or.inr ⟨here, here, rfl, rfl, Or.inl rfl⟩
  · cases changed with
    | directory changedName rest _ inner fresh present below =>
        by_cases hit : name = changedName
        · rw [hit, entry?_setEntry_self]
          refine Or.inr ⟨inner, fresh, present, rfl, Or.inr ⟨rest, ?_, below⟩⟩
          rw [whole, List.append_assoc]
          rfl
        · rw [entry?_setEntry_of_ne hit]
          cases found : entry? name entries with
          | none => exact Or.inl ⟨rfl, rfl⟩
          | some here => exact Or.inr ⟨here, here, rfl, rfl, Or.inl rfl⟩

-- Where two look-ups have come to, entry by entry up to the root. The components that led there
-- are kept backwards.
inductive Trail (way : List Text) : List Text → Entry → List Entry → Entry → List Entry → Prop where
  | top (here there : Entry) (alike : AlikeAt way [] here there) : Trail way [] here [] there []
  | down (name : Text) (stack : List Text) (here up : Entry) (above : List Entry) (there otherUp : Entry)
      (otherAbove : List Entry) (named : name ≠ Path.dotDot) (outer : Trail way stack up above otherUp otherAbove)
      (alike : AlikeAt way (name :: stack).reverse here there) :
      Trail way (name :: stack) here (up :: above) there (otherUp :: otherAbove)

theorem trail_alike (way stack : List Text) (here there : Entry) (above others : List Entry)
    (trail : Trail way stack here above there others) : AlikeAt way stack.reverse here there := by
  cases trail with
  | top _ _ alike => exact alike
  | down _ _ _ _ _ _ _ _ _ _ alike => exact alike

inductive Answers (way place : List Text) : Except DiskFault Entry → Except DiskFault Entry → Prop where
  | fault (fault : DiskFault) : Answers way place (.error fault) (.error fault)
  | reached (here there : Entry) (alike : AlikeAt way place here there) : Answers way place (.ok here) (.ok there)

theorem trail_up (way stack : List Text) (here there : Entry) (above others : List Entry)
    (trail : Trail way stack here above there others) (parts : List Text) (entries otherEntries : FileTree)
    (isHere : here = .directory entries) (isThere : there = .directory otherEntries) :
    ∃ next otherNext more otherMore,
      follow here above (Path.dotDot :: parts) = follow next more parts ∧
      follow there others (Path.dotDot :: parts) = follow otherNext otherMore parts ∧
      Trail way (Path.push true stack Path.dotDot) next more otherNext otherMore := by
  cases trail with
  | top _ _ alike =>
      refine ⟨here, there, [], [], ?_, ?_, .top here there alike⟩
      · rw [isHere, follow, if_pos rfl]
      · rw [isThere, follow, if_pos rfl]
  | down name stack _ up above _ otherUp otherAbove named outer alike =>
      have popped : Path.push true (name :: stack) Path.dotDot = stack := by
        simp only [Path.push, if_true, if_neg named]
      rw [popped]
      refine ⟨up, otherUp, above, otherAbove, ?_, ?_, outer⟩
      · rw [isHere, follow, if_pos rfl]
      · rw [isThere, follow, if_pos rfl]

theorem follow_alike (way parts stack : List Text) (here there : Entry) (above others : List Entry)
    (trail : Trail way stack here above there others) :
    Answers way (parts.foldl (Path.push true) stack).reverse (follow here above parts) (follow there others parts) := by
  induction parts generalizing stack here there above others with
  | nil => exact .reached here there (trail_alike way stack here there above others trail)
  | cons part parts ih =>
      have alike := trail_alike way stack here there above others trail
      cases here with
      | file content =>
          obtain ⟨other, form, _⟩ := alike_file way _ content there alike
          rw [form]
          exact .fault .notDirectory
      | directory entries =>
          obtain ⟨otherEntries, form⟩ := alike_directory way _ entries there alike
          subst form
          by_cases up : part = Path.dotDot
          · obtain ⟨next, otherNext, more, otherMore, onward, otherOnward, outer⟩ :=
              trail_up way stack _ _ above others trail parts entries otherEntries rfl rfl
            rw [up, onward, otherOnward]
            exact ih _ next otherNext more otherMore outer
          · rw [List.foldl_cons, Path.push_name true stack part up, follow_name part parts entries above up,
              follow_name part parts otherEntries others up]
            by_cases long : maxNameSize < nameSize part
            · rw [if_pos long, if_pos long]
              exact .fault .nameTooLong
            · rw [if_neg long, if_neg long]
              rcases alike_entry way _ entries otherEntries part alike with ⟨absent, otherAbsent⟩ | found
              · rw [absent, otherAbsent]
                exact .fault .missing
              · obtain ⟨next, otherNext, present, otherPresent, nextAlike⟩ := found
                rw [present, otherPresent]
                refine ih (part :: stack) next otherNext _ _ (.down part stack _ _ _ _ _ _ up trail ?_)
                rw [List.reverse_cons]
                exact nextAlike

theorem find_alike (tree : FileTree) (way parts : List Text) (old fresh : Bytes)
    (names : ∀ part ∈ way, part ≠ Path.dotDot) (regular : tree.find way = .ok (.file old)) :
    Answers way (parts.foldl (Path.push true) []).reverse (tree.find parts) ((tree.put (.file fresh) way).find parts) := by
  have changed := put_changed way tree [] old fresh names regular
  exact follow_alike way parts [] _ _ [] [] (.top _ _ (Or.inr ⟨way, rfl, changed⟩))

end FileTree

namespace Host

def rewritten (host : Host) (g : Path) (fresh : Bytes) : Host :=
  { host with tree := host.tree.put (.file fresh) g.parts }

-- The place that a path leads to, by its text alone.
def lands (host : Host) (path : Path) : Path := Path.collapse ⟨.slash, (host.absolute path).parts⟩

section Rewriting

variable (host : Host) (g : Path) (old fresh : Bytes) (names : ∀ part ∈ g.parts, part ≠ Path.dotDot)
  (regular : host.tree.find g.parts = .ok (.file old))

include names regular

theorem entry_rewritten (path : Path) :
    (∃ failure, host.entry path = .error failure ∧ (host.rewritten g fresh).entry path = .error failure) ∨
      ∃ here there, host.entry path = .ok here ∧ (host.rewritten g fresh).entry path = .ok there ∧
        FileTree.AlikeAt g.parts (host.lands path).parts here there := by
  have answers : FileTree.Answers g.parts (host.lands path).parts (host.tree.find (host.absolute path).parts)
      ((host.tree.put (.file fresh) g.parts).find (host.absolute path).parts) :=
    FileTree.find_alike host.tree g.parts (host.absolute path).parts old fresh names regular
  rw [entry_eq, entry_eq]
  change (∃ failure, admitted path (host.tree.find (host.absolute path).parts) = _ ∧
      admitted path ((host.tree.put (.file fresh) g.parts).find (host.absolute path).parts) = _) ∨
    ∃ here there, admitted path (host.tree.find (host.absolute path).parts) = _ ∧
      admitted path ((host.tree.put (.file fresh) g.parts).find (host.absolute path).parts) = _ ∧ _
  rcases admitted_cases path with ⟨failure, refused⟩ | passed
  · exact Or.inl ⟨failure, refused _, refused _⟩
  · rw [passed, passed]
    generalize host.tree.find (host.absolute path).parts = found at answers ⊢
    generalize (host.tree.put (.file fresh) g.parts).find (host.absolute path).parts = other at answers ⊢
    cases answers with
    | fault fault => exact Or.inl ⟨_, rfl, rfl⟩
    | reached here there alike => exact Or.inr ⟨here, there, rfl, rfl, alike⟩

theorem look_rewritten (path : Path) :
    (host.rewritten g fresh).look path = host.look path ∨
      ∃ here there, host.look path = .ok (some here) ∧ (host.rewritten g fresh).look path = .ok (some there) ∧
        FileTree.AlikeAt g.parts (host.lands path).parts here there := by
  rcases entry_rewritten host g old fresh names regular path with ⟨failure, failed, otherFailed⟩ | found
  · exact Or.inl (by simp only [look, entry?, failed, otherFailed])
  · obtain ⟨here, there, reached, otherReached, alike⟩ := found
    exact Or.inr ⟨here, there, by simp only [look, entry?, reached], by simp only [look, entry?, otherReached], alike⟩

theorem is_file_rewritten (path : Path) : (host.rewritten g fresh).isFile path = host.isFile path := by
  rcases look_rewritten host g old fresh names regular path with same | ⟨here, there, looked, otherLooked, alike⟩
  · rw [isFile, isFile, same]
  · have kind := FileTree.alike_is_file _ _ here there alike
    rw [isFile, isFile, looked, otherLooked, Failure.ok_bind, Failure.ok_bind, Option.any_some, Option.any_some, kind]

theorem regular_rewritten (paths : List Path) : (host.rewritten g fresh).regular paths = host.regular paths := by
  induction paths with
  | nil => rfl
  | cons path rest ih => rw [Host.regular, Host.regular, is_file_rewritten host g old fresh names regular, ih]

theorem is_directory_rewritten (path : Path) :
    (host.rewritten g fresh).isDirectory path = host.isDirectory path := by
  rcases look_rewritten host g old fresh names regular path with same | ⟨here, there, looked, otherLooked, alike⟩
  · rw [isDirectory, isDirectory, same]
  · have kind := FileTree.alike_is_file _ _ here there alike
    rw [isDirectory, isDirectory, looked, otherLooked, Failure.ok_bind, Failure.ok_bind, Option.any_some,
      Option.any_some, Entry.isDirectory, Entry.isDirectory, kind]

theorem disk_rewritten : (host.rewritten g fresh).disk = host.disk := by
  funext path
  rcases entry_rewritten host g old fresh names regular (Path.ofText path) with ⟨failure, failed, otherFailed⟩ | found
  · simp only [disk, entry?, failed, otherFailed]
  · obtain ⟨here, there, reached, otherReached, alike⟩ := found
    have kind := FileTree.alike_is_file _ _ here there alike
    simp only [disk, entry?, reached, otherReached, Failure.ok_bind, Option.any_some, kind]

theorem read_rewritten (path : Path) (elsewhere : (host.lands path).parts ≠ g.parts) :
    (host.rewritten g fresh).read path = host.read path := by
  rcases entry_rewritten host g old fresh names regular path with ⟨failure, failed, otherFailed⟩ | found
  · rw [read, read, failed, otherFailed]
  · obtain ⟨here, there, reached, otherReached, alike⟩ := found
    rw [read, read, reached, otherReached]
    cases here with
    | file content =>
        obtain ⟨other, form, same⟩ := FileTree.alike_file _ _ content there alike
        rw [form, same elsewhere]
    | directory entries =>
        obtain ⟨others, form⟩ := FileTree.alike_directory _ _ entries there alike
        rw [form]
        rfl

end Rewriting

end Host

end Linkage
