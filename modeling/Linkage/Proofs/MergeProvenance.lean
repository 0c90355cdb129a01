import Linkage.Proofs.DistinctKeys
import Linkage.Proofs.SettingsLayers

set_option autoImplicit false

namespace Linkage

namespace Members

def fresh (base : Members) (key : Text) (value : Json) : Json :=
  (get? key base).elim value fun old => old.laidOver value

theorem merge_cons (base rest : Members) (key : Text) (value : Json) :
    merge base ((key, value) :: rest) = merge (put key (fresh base key value) base) rest := by
  rw [merge, Json.overMembers, fresh]
  cases get? key base <;> rfl

theorem fresh_found (base : Members) (key : Text) (old value : Json) (found : get? key base = some old) :
    fresh base key value = old.laidOver value := by
  rw [fresh, found, Option.elim_some]

theorem fresh_cases (base : Members) (key : Text) (value : Json) :
    fresh base key value = value ∨
      ∃ old, get? key base = some old ∧ fresh base key value = old.laidOver value := by
  cases found : get? key base with
  | none => exact .inl (by rw [fresh, found, Option.elim_none])
  | some old => exact .inr ⟨old, rfl, fresh_found base key old value found⟩

theorem fresh_put_of_ne (key other : Text) (different : other ≠ key) (placed value : Json) (base : Members) :
    fresh (put key placed base) other value = fresh base other value := by
  rw [fresh, get?_put_of_ne different, fresh]

theorem get_merge (base layer : Members) (once : (keys layer).Nodup) (key : Text) :
    get? key (merge base layer) =
      (get? key layer).elim (get? key base) fun value => some (fresh base key value) := by
  induction layer generalizing base with
  | nil => rw [merge_nil]; rfl
  | cons member rest ih =>
      obtain ⟨k, v⟩ := member
      obtain ⟨first, others⟩ := List.nodup_cons.mp once
      rw [merge_cons, ih _ others, get?]
      by_cases same : k = key
      · subst same
        have last : get? k rest = none := (get_none_iff k rest).mpr first
        rw [last, if_pos rfl, Option.elim_none, get?_put_self]
        rfl
      · have different : key ≠ k := fun equal => same equal.symm
        rw [if_neg same, get?_put_of_ne different]
        simp only [fresh_put_of_ne k key different]

theorem keys_merge (base layer : Members) (once : (keys layer).Nodup) :
    keys (merge base layer) = keys base ++ (keys layer).filter fun key => key ∉ keys base := by
  induction layer generalizing base with
  | nil => rw [merge_nil]; exact (List.append_nil _).symm
  | cons member rest ih =>
      obtain ⟨k, v⟩ := member
      obtain ⟨first, others⟩ := List.nodup_cons.mp once
      have listed : keys ((k, v) :: rest) = k :: keys rest := rfl
      rw [merge_cons, ih _ others, keys_put, listed]
      by_cases present : k ∈ keys base
      · simp [present]
      · -- The new key stands at the end of the old ones, and no later key of the layer is the same.
        have later : (keys rest).filter (fun key => key ∉ keys base ++ [k]) =
            (keys rest).filter fun key => key ∉ keys base := by
          refine List.filter_congr fun key among => ?_
          have different : key ≠ k := fun same => first (same ▸ among)
          simp [different]
        rw [if_neg present, later, List.filter_cons_of_pos (by simpa using present), List.append_assoc]
        rfl

-- Nothing changes where every value laid over is already in its place.
theorem merge_settled (base layer : Members)
    (settled : ∀ member ∈ layer, ∃ old, get? member.1 base = some old ∧ old.laidOver member.2 = old) :
    merge base layer = base := by
  induction layer with
  | nil => exact merge_nil base
  | cons member rest ih =>
      obtain ⟨k, v⟩ := member
      obtain ⟨⟨old, found, same⟩, others⟩ := List.forall_mem_cons.mp settled
      rw [merge_cons, fresh_found base k old v found, same, put_unchanged k old base found]
      exact ih others

end Members

namespace Json

def isObject : Json → Bool
  | .obj _ => true
  | _ => false

def at? : Json → List Text → Option Json
  | value, [] => some value
  | .obj members, key :: path => (Members.get? key members).bind fun value => at? value path
  | _, _ :: _ => none

-- A key of the path is missing from the object that the keys before it lead to.
def Leaves (layer : Json) (path : List Text) : Prop :=
  ∃ front key back members,
    path = front ++ key :: back ∧ layer.at? front = some (.obj members) ∧ Members.get? key members = none

theorem at_cons (value : Json) (key : Text) (path : List Text) (found : Json)
    (leads : value.at? (key :: path) = some found) :
    ∃ members inner, value = .obj members ∧ Members.get? key members = some inner ∧ inner.at? path = some found := by
  cases value with
  | obj members =>
      obtain ⟨inner, here, below⟩ := Option.bind_eq_some_iff.mp leads
      exact ⟨members, inner, rfl, here, below⟩
  | null | bool | int | float | str | arr => cases leads

theorem at_member (members : Members) (key : Text) (path : List Text) (inner : Json)
    (found : Members.get? key members = some inner) : (Json.obj members).at? (key :: path) = inner.at? path := by
  rw [at?, found]
  rfl

theorem leaves_cons (layer : Json) (key : Text) (path : List Text) (leaves : layer.Leaves (key :: path)) :
    ∃ members, layer = .obj members ∧
      (Members.get? key members = none ∨ ∃ inner, Members.get? key members = some inner ∧ inner.Leaves path) := by
  obtain ⟨front, missing, back, members, split, leads, absent⟩ := leaves
  cases front with
  | nil =>
      cases split
      exact ⟨members, Option.some.inj leads, .inl absent⟩
  | cons first front =>
      cases split
      obtain ⟨outer, inner, object, found, below⟩ := at_cons layer key front _ leads
      exact ⟨outer, object, .inr ⟨inner, found, front, missing, back, members, rfl, below, absent⟩⟩

theorem leaves_here (members : Members) (key : Text) (path : List Text) (absent : Members.get? key members = none) :
    (Json.obj members).Leaves (key :: path) :=
  ⟨[], key, path, members, rfl, rfl, absent⟩

theorem leaves_below (members : Members) (key : Text) (path : List Text) (inner : Json)
    (found : Members.get? key members = some inner) (leaves : inner.Leaves path) :
    (Json.obj members).Leaves (key :: path) := by
  obtain ⟨front, missing, back, last, split, leads, absent⟩ := leaves
  exact ⟨key :: front, missing, back, last, by rw [split]; rfl, by rw [at_member members key front inner found, leads],
    absent⟩

theorem laid_over_cases (old value : Json) :
    old.laidOver value = value ∨ ∃ base layer, old = .obj base ∧ value = .obj layer := by
  cases value with
  | obj layer =>
      cases old with
      | obj base => exact .inr ⟨base, layer, rfl, rfl⟩
      | null | bool | int | float | str | arr => exact .inl rfl
  | null | bool | int | float | str | arr => exact .inl rfl

theorem laid_over_objects (base layer : Members) :
    (Json.obj base).laidOver (.obj layer) = .obj (Members.merge base layer) := rfl

theorem at_merge_missing (base layer : Members) (once : (Members.keys layer).Nodup) (key : Text) (path : List Text)
    (absent : Members.get? key layer = none) :
    (Json.obj (Members.merge base layer)).at? (key :: path) = (Json.obj base).at? (key :: path) := by
  rw [at?, at?, Members.get_merge base layer once, absent, Option.elim_none]

theorem at_merge_given (base layer : Members) (once : (Members.keys layer).Nodup) (key : Text) (path : List Text)
    (value : Json) (given : Members.get? key layer = some value) :
    (Json.obj (Members.merge base layer)).at? (key :: path) = (Members.fresh base key value).at? path := by
  refine at_member _ key path _ ?_
  rw [Members.get_merge base layer once, given, Option.elim_some]

theorem distinct_get (members : Members) (distinct : (Json.obj members).Distinct) (key : Text) (value : Json)
    (found : Members.get? key members = some value) : value.Distinct :=
  distinct_member members distinct (key, value) (Members.get_mem key value members found)

theorem at_given (path : List Text) (old new : Json) (distinct : new.Distinct) (value : Json)
    (plain : value.isObject = false) (leads : new.at? path = some value) :
    (old.laidOver new).at? path = some value := by
  induction path generalizing old new with
  | nil =>
      cases Option.some.inj leads
      rcases laid_over_cases old value with replaced | ⟨base, layer, rfl, rfl⟩
      · rw [replaced, at?]
      · cases plain
  | cons key path ih =>
      obtain ⟨layer, inner, rfl, given, below⟩ := at_cons new key path value leads
      rcases laid_over_cases old (.obj layer) with replaced | ⟨base, _, rfl, _⟩
      · rw [replaced, leads]
      · rw [laid_over_objects, at_merge_given base layer distinct.1 key path inner given]
        rcases Members.fresh_cases base key inner with alone | ⟨older, _, merged⟩
        · rw [alone, below]
        · rw [merged]
          exact ih older inner (distinct_get layer distinct key inner given) below

theorem at_untouched (path : List Text) (old new : Json) (distinct : new.Distinct) (value : Json)
    (leads : old.at? path = some value) (leaves : new.Leaves path) : (old.laidOver new).at? path = some value := by
  induction path generalizing old new with
  | nil =>
      obtain ⟨front, key, back, _, split, _⟩ := leaves
      cases front <;> cases split
  | cons key path ih =>
      obtain ⟨base, older, rfl, found, below⟩ := at_cons old key path value leads
      obtain ⟨layer, rfl, absent | ⟨inner, given, leaves⟩⟩ := leaves_cons new key path leaves
      · rw [laid_over_objects, at_merge_missing base layer distinct.1 key path absent, leads]
      · rw [laid_over_objects, at_merge_given base layer distinct.1 key path inner given,
          Members.fresh_found base key older inner found]
        exact ih older inner (distinct_get layer distinct key inner given) below leaves

theorem at_origin (path : List Text) (old new : Json) (distinct : new.Distinct) (value : Json)
    (plain : value.isObject = false) (leads : (old.laidOver new).at? path = some value) :
    new.at? path = some value ∨ old.at? path = some value ∧ new.Leaves path := by
  induction path generalizing old new with
  | nil =>
      rcases laid_over_cases old new with replaced | ⟨base, layer, rfl, rfl⟩
      · exact .inl (replaced ▸ leads)
      · cases leads
        cases plain
  | cons key path ih =>
      rcases laid_over_cases old new with replaced | ⟨base, layer, rfl, rfl⟩
      · exact .inl (replaced ▸ leads)
      · rw [laid_over_objects] at leads
        cases given : Members.get? key layer with
        | none =>
            rw [at_merge_missing base layer distinct.1 key path given] at leads
            exact .inr ⟨leads, leaves_here layer key path given⟩
        | some inner =>
            rw [at_merge_given base layer distinct.1 key path inner given] at leads
            rw [at_member layer key path inner given]
            rcases Members.fresh_cases base key inner with alone | ⟨older, found, merged⟩
            · exact .inl (alone ▸ leads)
            · rw [merged] at leads
              rw [at_member base key path older found]
              exact (ih older inner (distinct_get layer distinct key inner given) leads).imp_right
                (And.imp_right (leaves_below layer key path inner given))

theorem at_both (path : List Text) (old new : Json) (distinct : new.Distinct) (base layer : Members)
    (ofOld : old.at? path = some (.obj base)) (ofNew : new.at? path = some (.obj layer)) :
    (old.laidOver new).at? path = some (.obj (Members.merge base layer)) ∧ (Json.obj layer).Distinct := by
  induction path generalizing old new with
  | nil =>
      cases Option.some.inj ofOld
      cases Option.some.inj ofNew
      exact ⟨rfl, distinct⟩
  | cons key path ih =>
      obtain ⟨outerBase, older, rfl, found, belowOld⟩ := at_cons old key path _ ofOld
      obtain ⟨outerLayer, inner, rfl, given, belowNew⟩ := at_cons new key path _ ofNew
      rw [laid_over_objects, at_merge_given outerBase outerLayer distinct.1 key path inner given,
        Members.fresh_found outerBase key older inner found]
      exact ih older inner (distinct_get outerLayer distinct key inner given) belowOld belowNew

section Twice

-- A value that settles: laid over anything a second time, it changes nothing.
def Settles (value : Json) : Prop := ∀ old : Json, (old.laidOver value).laidOver value = old.laidOver value

theorem laid_over_self (value : Json) (settles : value.Settles) : value.laidOver value = value := by
  have replaced : Json.null.laidOver value = value := by
    rcases laid_over_cases .null value with replaced | ⟨_, _, object, _⟩
    · exact replaced
    · cases object
  simpa only [replaced] using settles .null

variable (layer : Members) (once : (Members.keys layer).Nodup) (settles : ∀ member ∈ layer, member.2.Settles)

include once settles

theorem merge_self : Members.merge layer layer = layer := by
  refine Members.merge_settled layer layer fun member among => ?_
  exact ⟨member.2, Members.get_of_mem member.1 member.2 layer once among,
    laid_over_self member.2 (settles member among)⟩

theorem merge_twice (base : Members) :
    Members.merge (Members.merge base layer) layer = Members.merge base layer := by
  refine Members.merge_settled _ layer fun member among => ?_
  obtain ⟨key, value⟩ := member
  refine ⟨Members.fresh base key value, ?_, ?_⟩
  · rw [Members.get_merge base layer once, Members.get_of_mem key value layer once among, Option.elim_some]
  · rcases Members.fresh_cases base key value with alone | ⟨older, _, merged⟩
    · rw [alone]
      exact laid_over_self value (settles (key, value) among)
    · rw [merged]
      exact settles (key, value) among older

end Twice

mutual

theorem distinct_settles (value : Json) (distinct : value.Distinct) : value.Settles := by
  cases value with
  | obj layer =>
      intro old
      have inside := distinct_in_settles layer distinct.2
      rcases laid_over_cases old (.obj layer) with replaced | ⟨base, _, rfl, _⟩
      · rw [replaced, laid_over_objects, merge_self layer distinct.1 inside]
      · rw [laid_over_objects, laid_over_objects, merge_twice layer distinct.1 inside base]
  | null | bool | int | float | str | arr => exact fun _ => rfl

theorem distinct_in_settles (members : Members) (distinct : DistinctIn members) :
    ∀ member ∈ members, member.2.Settles := by
  cases members with
  | nil => exact fun member among => absurd among List.not_mem_nil
  | cons first rest =>
      obtain ⟨key, value⟩ := first
      exact List.forall_mem_cons.mpr ⟨distinct_settles value distinct.1, distinct_in_settles rest distinct.2⟩

end

structure Provenance (old new merged : Json) : Prop where
  given : ∀ path value, value.isObject = false → new.at? path = some value → merged.at? path = some value
  untouched : ∀ path value, old.at? path = some value → new.Leaves path → merged.at? path = some value
  origin : ∀ path value, value.isObject = false → merged.at? path = some value →
    new.at? path = some value ∨ old.at? path = some value ∧ new.Leaves path
  ordered : ∀ path base layer, old.at? path = some (.obj base) → new.at? path = some (.obj layer) →
    ∃ members, merged.at? path = some (.obj members) ∧
      Members.keys members = Members.keys base ++ (Members.keys layer).filter fun key => key ∉ Members.keys base
  settled : merged.laidOver new = merged

theorem laid_over_provenance (old new : Json) (distinct : new.Distinct) :
    Provenance old new (old.laidOver new) where
  given path value plain leads := at_given path old new distinct value plain leads
  untouched path value leads leaves := at_untouched path old new distinct value leads leaves
  origin path value plain leads := at_origin path old new distinct value plain leads
  ordered path base layer ofOld ofNew := by
    obtain ⟨leads, inside⟩ := at_both path old new distinct base layer ofOld ofNew
    exact ⟨_, leads, Members.keys_merge base layer inside.1⟩
  settled := distinct_settles new distinct old

end Json

namespace Settings

variable (host : Host)

def layer (file : Path) : Except Failure Members := do
  return (← ofFile host file).getD []

def projectLayer : Option Path → Except Failure Members
  | none => .ok []
  | some root => do layer host (projectFile (← host.settle root))

theorem layer_distinct (file : Path) (members : Members) (read : layer host file = .ok members) :
    (Json.obj members).Distinct := by
  obtain ⟨held, inside, last⟩ := Failure.bind_ok _ _ _ read
  cases last
  cases held with
  | none => exact ⟨List.nodup_nil, trivial⟩
  | some members => exact of_file_distinct host file members inside

theorem project_layer_distinct (root : Option Path) (members : Members) (read : projectLayer host root = .ok members) :
    (Json.obj members).Distinct := by
  cases root with
  | none =>
      cases read
      exact ⟨List.nodup_nil, trivial⟩
  | some root =>
      obtain ⟨place, _, last⟩ := Failure.bind_ok _ _ _ read
      exact layer_distinct host (projectFile place) members last

theorem overlay_of_layer (file : Path) (base : Members) :
    overlay host file base = layer host file >>= fun members => .ok (base.merge members) := by
  rw [overlay, layer]
  cases ofFile host file with
  | error failure => rfl
  | ok held =>
      cases held with
      | none => exact congrArg Except.ok (Members.merge_nil base).symm
      | some members => rfl

theorem load_layers (root : Option Path) :
    load host root = layer host (userFile host) >>= fun user => projectLayer host root >>= fun project =>
      .ok (.obj ((standardMembers.merge user).merge project)) := by
  rw [load, overlay_of_layer]
  cases layer host (userFile host) with
  | error failure => rfl
  | ok user =>
      cases root with
      | none => exact congrArg (fun merged => Except.ok (Json.obj merged)) (Members.merge_nil _).symm
      | some root =>
          simp only [Failure.ok_bind, projectLayer, overlay_of_layer]
          cases host.settle root with
          | error failure => rfl
          | ok place =>
              simp only [Failure.ok_bind]
              cases layer host (projectFile place) <;> rfl

-- A setting of the project wins over one of the user, and that over a standard one.
structure Precedence (user project : Members) (settings : Settings) : Prop where
  chosen : ∀ path value, value.isObject = false →
    (settings.at? path = some value ↔
      (Json.obj project).at? path = some value ∨
      (Json.obj project).Leaves path ∧
        ((Json.obj user).at? path = some value ∨
          (Json.obj user).Leaves path ∧ standard.at? path = some value))
  kept : ∀ path value, (Json.obj project).Leaves path → (Json.obj user).Leaves path →
    standard.at? path = some value → settings.at? path = some value

theorem precedence_of_provenance (user project : Members) (outside settings : Settings)
    (ofUser : Json.Provenance standard (.obj user) outside)
    (ofProject : Json.Provenance outside (.obj project) settings) : Precedence user project settings where
  chosen path value plain := by
    constructor
    · intro leads
      rcases ofProject.origin path value plain leads with own | ⟨below, leaves⟩
      · exact .inl own
      · exact .inr ⟨leaves, (ofUser.origin path value plain below).imp_right And.symm⟩
    · rintro (own | ⟨leaves, users | ⟨leavesToo, standards⟩⟩)
      · exact ofProject.given path value plain own
      · exact ofProject.untouched path value (ofUser.given path value plain users) leaves
      · exact ofProject.untouched path value (ofUser.untouched path value standards leavesToo) leaves
  kept path value leaves leavesToo standards :=
    ofProject.untouched path value (ofUser.untouched path value standards leavesToo) leaves

theorem merge_provenance :
    (∀ base layer : Members, (Json.obj layer).Distinct →
      Json.Provenance (.obj base) (.obj layer) (.obj (base.merge layer))) ∧
    ∀ (host : Host) (root : Option Path),
      (∀ settings, load host root = .ok settings →
        ∃ user project, layer host (userFile host) = .ok user ∧ projectLayer host root = .ok project) ∧
      ∀ user project, layer host (userFile host) = .ok user → projectLayer host root = .ok project →
        ∃ outside settings, load host none = .ok outside ∧ load host root = .ok settings ∧
          Json.Provenance standard (.obj user) outside ∧ Json.Provenance outside (.obj project) settings ∧
          Precedence user project settings := by
  refine ⟨fun base layer distinct => Json.laid_over_provenance (.obj base) (.obj layer) distinct, fun host root => ?_⟩
  constructor
  · intro settings loaded
    rw [load_layers] at loaded
    obtain ⟨user, ofUser, rest⟩ := Failure.bind_ok _ _ _ loaded
    obtain ⟨project, ofProject, _⟩ := Failure.bind_ok _ _ _ rest
    exact ⟨user, project, ofUser, ofProject⟩
  · intro user project readUser readProject
    have ofUser : Json.Provenance standard (.obj user) (.obj (standardMembers.merge user)) :=
      Json.laid_over_provenance standard (.obj user) (layer_distinct host (userFile host) user readUser)
    have ofProject : Json.Provenance (.obj (standardMembers.merge user)) (.obj project)
        (.obj ((standardMembers.merge user).merge project)) :=
      Json.laid_over_provenance _ (.obj project) (project_layer_distinct host root project readProject)
    refine ⟨_, _, ?_, ?_, ofUser, ofProject, precedence_of_provenance user project _ _ ofUser ofProject⟩
    · rw [load_layers, readUser, Failure.ok_bind, projectLayer, Failure.ok_bind, Members.merge_nil]
    · rw [load_layers, readUser, Failure.ok_bind, readProject, Failure.ok_bind]

def nestedBase : Members :=
  [(Text.ofString "walker", .ofPairs [("extensions", .ofPairs [("js", .bool true)]), ("jobs", .int 1)]),
   (Text.ofString "logging", .int 3)]

def nestedLayer : Members :=
  [(Text.ofString "ignore", .arr []), (Text.ofString "logging", .ofPairs [("level", .int 5)]),
   (Text.ofString "walker", .ofPairs [("jobs", .ofPairs [])])]

def userJobs : Bytes := Utf8.encode (Text.ofString "\x7b\"walker\": \x7b\"jobs\": 4\x7d\x7d")

def projectJobs : Bytes := Utf8.encode (Text.ofString "\x7b\"walker\": \x7b\"jobs\": 2\x7d\x7d")

theorem read_of_is_ok (read : Except Failure Members) (done : read.isOk = true) : ∃ members, read = .ok members := by
  cases read with
  | error failure => cases done
  | ok members => exact ⟨members, rfl⟩

theorem merge_provenance_nested :
    ((Json.obj nestedLayer).Distinct ∧
      (Json.obj (nestedBase.merge nestedLayer)).at?
        [Text.ofString "walker", Text.ofString "extensions", Text.ofString "js"] = some (.bool true) ∧
      (Json.obj (nestedBase.merge nestedLayer)).at? [Text.ofString "logging", Text.ofString "level"] = some (.int 5)) ∧
    ∃ user project settings,
      layer (layered userJobs projectJobs) (userFile (layered userJobs projectJobs)) = .ok user ∧
      projectLayer (layered userJobs projectJobs) (some layeredRoot) = .ok project ∧
      load (layered userJobs projectJobs) (some layeredRoot) = .ok settings ∧ Precedence user project settings := by
  obtain ⟨merges, loads⟩ := merge_provenance
  constructor
  · have distinct : (Json.obj nestedLayer).Distinct :=
      ⟨by decide, trivial, ⟨by decide, trivial, trivial⟩, ⟨by decide, ⟨List.nodup_nil, trivial⟩, trivial⟩, trivial⟩
    have merged := merges nestedBase nestedLayer distinct
    refine ⟨distinct, merged.untouched _ _ rfl ?_, merged.given _ _ rfl rfl⟩
    exact ⟨[Text.ofString "walker"], Text.ofString "extensions", [Text.ofString "js"], _, rfl, rfl, rfl⟩
  · obtain ⟨user, ofUser⟩ := read_of_is_ok
      (layer (layered userJobs projectJobs) (userFile (layered userJobs projectJobs))) (by decide +kernel)
    obtain ⟨project, ofProject⟩ := read_of_is_ok
      (projectLayer (layered userJobs projectJobs) (some layeredRoot)) (by decide +kernel)
    obtain ⟨_, settings, _, loaded, _, _, precedence⟩ :=
      (loads (layered userJobs projectJobs) (some layeredRoot)).2 user project ofUser ofProject
    exact ⟨user, project, settings, ofUser, ofProject, loaded, precedence⟩

end Settings

end Linkage
