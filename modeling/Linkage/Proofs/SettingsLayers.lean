import Linkage.Bundle
import Linkage.Proofs.FileRemoval
import Linkage.Settings

set_option autoImplicit false

namespace Linkage

namespace Host

variable (host : Host)

theorem lands_child (path : Path) (name : Text) (named : name ≠ Path.dotDot) :
    (host.lands (path.child name)).parts = (host.lands path).parts ++ [name] := by
  have parts : (host.absolute (path.child name)).parts = (host.absolute path).parts ++ [name] := by
    have same : (path.child name).isAbsolute = path.isAbsolute := rfl
    rw [Host.absolute, Host.absolute, Path.below, Path.below, same]
    cases path.isAbsolute with
    | true => rfl
    | false => exact (List.append_assoc host.directory.parts path.parts [name]).symm
  simp only [lands, Path.collapse, parts, List.foldl_append, List.foldl_cons, List.foldl_nil,
    Path.push_name _ _ name named, List.reverse_cons]
  rfl

end Host

namespace Settings

variable (host : Host)

-- The files that settings are read from, each laid over those before it.
def sources : Option Path → Except Failure (List Path)
  | none => .ok [userFile host]
  | some root => do return [userFile host, projectFile (← host.settle root)]

def Holds (file : Path) (content : Bytes) : Prop := host.look file = .ok (some (.file content))

def Decodes (content : Bytes) : Prop := ∃ text, Utf8.decode content = .ok text

def Encodes (content : Bytes) (members : Members) : Prop :=
  ∃ text, Utf8.decode content = .ok text ∧ Json.read text = .ok (.obj members)

-- What is taken for granted of a settings file: it can be asked for, and a text that is not accepted
-- is refused as no JSON text.
structure Readable (file : Path) : Prop where
  asked : ∃ found, host.look file = .ok found
  refused : ∀ content text fault, Holds host file content → Utf8.decode content = .ok text →
    Json.read text = .error fault → fault = .malformed

theorem load_sources (root : Option Path) (files : List Path) (listed : sources host root = .ok files) :
    load host root =
      files.foldlM (fun base file => overlay host file base) standardMembers >>= fun merged => .ok (.obj merged) := by
  cases root with
  | none =>
      cases listed
      rw [load, List.foldlM_cons]
      cases overlay host (userFile host) standardMembers <;> rfl
  | some root =>
      obtain ⟨place, settled, last⟩ := Failure.bind_ok _ _ _ listed
      cases last
      rw [load, List.foldlM_cons]
      cases overlay host (userFile host) standardMembers with
      | error failure => rfl
      | ok merged =>
          simp only [Failure.ok_bind, settled, List.foldlM_cons]
          cases overlay host (projectFile place) merged <;> rfl

theorem sources_apart (root : Option Path) (files : List Path) (listed : sources host root = .ok files) (a b : Path)
    (memberA : a ∈ files) (memberB : b ∈ files) (different : a ≠ b) : (host.lands a).parts ≠ (host.lands b).parts := by
  cases root with
  | none =>
      cases listed
      have first : a = userFile host := by simpa using memberA
      have second : b = userFile host := by simpa using memberB
      exact absurd (first.trans second.symm) different
  | some root =>
      obtain ⟨place, _, last⟩ := Failure.bind_ok _ _ _ listed
      cases last
      have ends : (host.lands (userFile host)).parts.dropLast.getLast? ≠
          (host.lands (projectFile place)).parts.dropLast.getLast? := by
        rw [userFile, projectFile, host.lands_child _ fileName (by decide), host.lands_child _ fileName (by decide),
          host.lands_child _ (Text.ofString "modgraph") (by decide), host.lands_child _ directoryName (by decide)]
        simp only [List.dropLast_concat, List.getLast?_concat]
        decide
      have either (file : Path) (member : file ∈ [userFile host, projectFile place]) :
          file = userFile host ∨ file = projectFile place := by simpa using member
      intro same
      rcases either a memberA with userA | projectA <;> rcases either b memberB with userB | projectB
      · exact different (userA.trans userB.symm)
      · rw [userA, projectB] at same
        exact ends (by rw [same])
      · rw [projectA, userB] at same
        exact ends (by rw [same])
      · exact different (projectA.trans projectB.symm)

theorem of_file_held (file : Path) (content : Bytes) (held : Holds host file content) :
    ofFile host file = decoded content >>= ofText := by
  have read : host.read file = .ok content := by
    rw [Host.read, host.look_some file _ held]
    rfl
  rw [ofFile, Host.isFile, held, read]
  rfl

theorem of_file_other (file : Path) (found : Option Entry) (looked : host.look file = .ok found)
    (other : ∀ content, ¬ Holds host file content) : ofFile host file = .ok none := by
  have absent : found.any Entry.isFile = false := by
    cases found with
    | none => rfl
    | some entry =>
        cases entry with
        | file content => exact absurd looked (other content)
        | directory entries => rfl
  rw [ofFile, Host.isFile, looked]
  simp only [Failure.ok_bind, absent]
  rfl

theorem of_text_accepted (t : Text) (refused : ∀ fault, Json.read t = .error fault → fault = .malformed) :
    ∃ layer, ofText t = .ok layer ∧ ∀ members, layer = some members → Json.read t = .ok (.obj members) := by
  rw [ofText]
  split
  · rename_i members read
    exact ⟨some members, rfl, fun other same => by rw [read, Option.some.inj same]⟩
  · exact ⟨none, rfl, fun _ same => by cases same⟩
  · exact ⟨none, rfl, fun _ same => by cases same⟩
  · rename_i count read
    cases refused _ read

theorem of_file_decoded (file : Path) (content : Bytes) (readable : Readable host file) (held : Holds host file content)
    (decodes : Decodes content) :
    ∃ layer, ofFile host file = .ok layer ∧ ∀ members, layer = some members → Encodes content members := by
  obtain ⟨text, decodedTo⟩ := decodes
  obtain ⟨layer, accepted, object⟩ :=
    of_text_accepted text fun fault => readable.refused content text fault held decodedTo
  refine ⟨layer, ?_, fun members same => ⟨text, decodedTo, object members same⟩⟩
  rw [of_file_held host file content held, decoded, decodedTo]
  exact accepted

theorem overlay_layer (file : Path) (layer : Option Members) (read : ofFile host file = .ok layer) (base : Members) :
    ∃ merged, overlay host file base = .ok merged ∧ (layer = none → merged = base) := by
  rw [overlay, read]
  cases layer with
  | none => exact ⟨base, rfl, fun _ => rfl⟩
  | some members => exact ⟨base.merge members, rfl, fun absent => by cases absent⟩

theorem overlay_decoded (file : Path) (readable : Readable host file)
    (decodes : ∀ content, Holds host file content → Decodes content) (base : Members) :
    ∃ merged, overlay host file base = .ok merged := by
  obtain ⟨layer, read⟩ : ∃ layer, ofFile host file = .ok layer := by
    obtain ⟨found, looked⟩ := readable.asked
    by_cases held : ∃ content, Holds host file content
    · obtain ⟨content, held⟩ := held
      obtain ⟨layer, read, _⟩ := of_file_decoded host file content readable held (decodes content held)
      exact ⟨layer, read⟩
    · exact ⟨none, of_file_other host file found looked fun content own => held ⟨content, own⟩⟩
  obtain ⟨merged, laid, _⟩ := overlay_layer host file layer read base
  exact ⟨merged, laid⟩

theorem overlay_undecodable (file : Path) (content : Bytes) (fault : Utf8.Fault) (held : Holds host file content)
    (undecodable : Utf8.decode content = .error fault) (base : Members) :
    overlay host file base = .error (.undecodable fault) := by
  rw [overlay, of_file_held host file content held, decoded, undecodable]
  rfl

theorem overlays_decoded (files : List Path) (readable : ∀ file ∈ files, Readable host file)
    (decodes : ∀ file ∈ files, ∀ content, Holds host file content → Decodes content) (base : Members) :
    ∃ merged, files.foldlM (fun base file => overlay host file base) base = .ok merged := by
  induction files generalizing base with
  | nil => exact ⟨base, rfl⟩
  | cons file files ih =>
      obtain ⟨first, others⟩ := List.forall_mem_cons.mp readable
      obtain ⟨firstDecodes, othersDecode⟩ := List.forall_mem_cons.mp decodes
      obtain ⟨next, laid⟩ := overlay_decoded host file first firstDecodes base
      obtain ⟨merged, done⟩ := ih others othersDecode next
      exact ⟨merged, by rw [List.foldlM_cons, laid, Failure.ok_bind, done]⟩

theorem overlays_same (other : Host) (files : List Path)
    (same : ∀ file ∈ files, ∀ base, overlay other file base = overlay host file base) (base : Members) :
    files.foldlM (fun base file => overlay other file base) base =
      files.foldlM (fun base file => overlay host file base) base := by
  induction files generalizing base with
  | nil => rfl
  | cons file files ih =>
      obtain ⟨first, others⟩ := List.forall_mem_cons.mp same
      simp only [List.foldlM_cons, first, ih others]

section Removal

variable (file : Path) (content : Bytes) (held : Holds host file content)

include held

theorem of_file_without (path : Path) (elsewhere : (host.lands path).parts ≠ (host.lands file).parts) :
    ofFile (host.without file) path = ofFile host path := by
  rw [ofFile, ofFile, host.is_file_without file content held path elsewhere]
  cases regular : host.isFile path with
  | error failure => rfl
  | ok isFile =>
      cases isFile with
      | false => rfl
      | true => rw [host.read_without file content held path elsewhere regular]

theorem of_file_removed : ofFile (host.without file) file = .ok none := by
  rw [ofFile, Host.isFile, host.look_without file content held]
  rfl

end Removal

theorem overlay_without (root : Option Path) (files : List Path) (listed : sources host root = .ok files) (file : Path)
    (member : file ∈ files) (content : Bytes) (held : Holds host file content) (ignored : ofFile host file = .ok none) :
    ∀ path ∈ files, ∀ base, overlay (host.without file) path base = overlay host path base := by
  intro path listedPath base
  by_cases same : path = file
  · rw [same, overlay, overlay, ignored, of_file_removed host file content held]
  · have elsewhere := sources_apart host root files listed path file listedPath member same
    rw [overlay, overlay, of_file_without host file content held path elsewhere]

theorem invalid_settings_ignored (root : Option Path) (files : List Path) (listed : sources host root = .ok files)
    (readable : ∀ file ∈ files, Readable host file) :
    ((∀ file ∈ files, ∀ content, Holds host file content → Decodes content) →
      ∃ settings, load host root = .ok settings) ∧
    (∀ front file back content fault, files = front ++ file :: back →
      (∀ earlier ∈ front, ∀ bytes, Holds host earlier bytes → Decodes bytes) → Holds host file content →
      Utf8.decode content = .error fault → load host root = .error (.undecodable fault)) ∧
    ∀ file ∈ files, ∀ content, Holds host file content → Decodes content → (∀ members, ¬ Encodes content members) →
      load host root = load (host.without file) root := by
  refine ⟨?_, ?_, ?_⟩
  · intro decodes
    obtain ⟨merged, done⟩ := overlays_decoded host files readable decodes standardMembers
    exact ⟨.obj merged, by rw [load_sources host root files listed, done]; rfl⟩
  · intro front file back content fault split decodes held undecodable
    obtain ⟨merged, done⟩ := overlays_decoded host front
      (fun earlier member => readable earlier (split ▸ List.mem_append_left _ member)) decodes standardMembers
    rw [load_sources host root files listed, split, List.foldlM_append, done, Failure.ok_bind, List.foldlM_cons,
      overlay_undecodable host file content fault held undecodable merged]
    rfl
  · intro file member content held decodes invalid
    obtain ⟨layer, read, object⟩ := of_file_decoded host file content (readable file member) held decodes
    have ignored : layer = none := by
      cases layer with
      | none => rfl
      | some members => exact absurd (object members rfl) (invalid members)
    have listedWithout : sources (host.without file) root = .ok files := listed
    rw [load_sources host root files listed, load_sources (host.without file) root files listedWithout,
      overlays_same host (host.without file) files
        (overlay_without host root files listed file member content held (ignored ▸ read))]

def layered (user project : Bytes) : Host :=
  .bundled [(Text.ofString "proj", .directory [(directoryName, .directory [(fileName, .file project)])]),
    (Text.ofString "home", .directory
      [(Text.ofString ".config", .directory [(Text.ofString "modgraph", .directory [(fileName, .file user)])])])]
    ⟨.slash, [Text.ofString "proj"]⟩ ⟨.slash, [Text.ofString "home"]⟩

def layeredRoot : Path := ⟨.slash, [Text.ofString "proj"]⟩

def layeredUser : Path := ⟨.slash, [Text.ofString "home", Text.ofString ".config", Text.ofString "modgraph", fileName]⟩

theorem layered_sources (user project : Bytes) :
    sources (layered user project) (some layeredRoot) = .ok [layeredUser, projectFile layeredRoot] := rfl

theorem layered_readable (user project : Bytes)
    (userRefused : ∀ text fault, Utf8.decode user = .ok text → Json.read text = .error fault → fault = .malformed)
    (projectRefused : ∀ text fault, Utf8.decode project = .ok text → Json.read text = .error fault →
      fault = .malformed) :
    ∀ file ∈ [layeredUser, projectFile layeredRoot], Readable (layered user project) file := by
  have ofUser : Holds (layered user project) layeredUser user := rfl
  have ofProject : Holds (layered user project) (projectFile layeredRoot) project := rfl
  refine List.forall_mem_cons.mpr ⟨⟨⟨_, ofUser⟩, ?_⟩, List.forall_mem_singleton.mpr ⟨⟨_, ofProject⟩, ?_⟩⟩
  · intro content text fault held
    cases ofUser.symm.trans held
    exact userRefused text fault
  · intro content text fault held
    cases ofProject.symm.trans held
    exact projectRefused text fault

-- A lone brace for the user, and an empty list for the project.
def brace : Bytes := [123]

def emptyList : Bytes := [91, 93]

theorem brace_refused (text : Text) (fault : Json.ReadFault) (decodes : Utf8.decode brace = .ok text)
    (refused : Json.read text = .error fault) : fault = .malformed := by
  cases decodes
  cases refused
  rfl

theorem empty_list_refused (text : Text) (fault : Json.ReadFault) (decodes : Utf8.decode emptyList = .ok text)
    (refused : Json.read text = .error fault) : fault = .malformed := by
  cases decodes
  cases refused

theorem invalid_settings_ignored_layered :
    (∃ settings, load (layered brace emptyList) (some layeredRoot) = .ok settings) ∧
    load (layered brace emptyList) (some layeredRoot) =
      load ((layered brace emptyList).without layeredUser) (some layeredRoot) ∧
    load (layered brace emptyList) (some layeredRoot) =
      load ((layered brace emptyList).without (projectFile layeredRoot)) (some layeredRoot) := by
  obtain ⟨passes, _, ignored⟩ := invalid_settings_ignored (layered brace emptyList) (some layeredRoot) _
    (layered_sources brace emptyList) (layered_readable brace emptyList brace_refused empty_list_refused)
  refine ⟨passes ?_, ignored layeredUser ?_ brace rfl ⟨_, rfl⟩ ?_,
    ignored (projectFile layeredRoot) ?_ emptyList rfl ⟨_, rfl⟩ ?_⟩
  · refine List.forall_mem_cons.mpr ⟨?_, List.forall_mem_singleton.mpr ?_⟩
    · intro content held
      cases held
      exact ⟨_, rfl⟩
    · intro content held
      cases held
      exact ⟨_, rfl⟩
  · exact List.mem_cons_self
  · rintro members ⟨text, decodes, read⟩
    cases decodes
    cases read
  · exact List.mem_cons_of_mem _ List.mem_cons_self
  · rintro members ⟨text, decodes, read⟩
    cases decodes
    cases read

-- A byte that begins no character.
def stray : Bytes := [255]

theorem undecodable_settings_fail :
    sources (layered brace stray) (some layeredRoot) = .ok [layeredUser, projectFile layeredRoot] ∧
      (∀ file ∈ [layeredUser, projectFile layeredRoot], Readable (layered brace stray) file) ∧
      Holds (layered brace stray) (projectFile layeredRoot) stray ∧ (∀ members, ¬ Encodes stray members) ∧
      load (layered brace stray) (some layeredRoot) = .error (.undecodable ⟨0, stray, .start⟩) ∧
      load ((layered brace stray).without (projectFile layeredRoot)) (some layeredRoot) = .ok standard := by
  have undecodable (text : Text) : Utf8.decode stray ≠ .ok text := by
    intro decodes
    cases decodes
  refine ⟨rfl, ?_, rfl, ?_, rfl, rfl⟩
  · exact layered_readable brace stray brace_refused fun text fault decodes => absurd decodes (undecodable text)
  · rintro members ⟨text, decodes, _⟩
    exact undecodable text decodes

end Settings

end Linkage
