import Linkage.Binary64

set_option autoImplicit false

namespace Linkage

inductive Json where
  | null
  | bool (b : Bool)
  | int (n : Int)
  | float (x : Binary64)
  | str (t : Text)
  | arr (items : List Json)
  | obj (members : List (Text × Json))

abbrev Members := List (Text × Json)

namespace Members

def keys (members : Members) : List Text := members.map Prod.fst

def get? (key : Text) : Members → Option Json
  | [] => none
  | (k, v) :: rest => if k = key then some v else get? key rest

theorem get_none_iff (key : Text) (members : Members) : get? key members = none ↔ key ∉ keys members := by
  induction members with
  | nil => simp [get?, keys]
  | cons member rest ih =>
      obtain ⟨k, v⟩ := member
      by_cases same : k = key
      · simp [get?, keys, same]
      · have different : key ≠ k := fun equal => same equal.symm
        rw [get?, if_neg same, ih]
        simp [keys, different]

theorem get_mem (key : Text) (value : Json) (members : Members) (found : get? key members = some value) :
    (key, value) ∈ members := by
  induction members with
  | nil => cases found
  | cons member rest ih =>
      obtain ⟨k, v⟩ := member
      by_cases same : k = key
      · rw [get?, if_pos same] at found
        cases found
        exact same ▸ List.mem_cons_self
      · rw [get?, if_neg same] at found
        exact List.mem_cons_of_mem _ (ih found)

theorem get_of_mem (key : Text) (value : Json) (members : Members) (once : (keys members).Nodup)
    (among : (key, value) ∈ members) : get? key members = some value := by
  induction members with
  | nil => cases among
  | cons member rest ih =>
      obtain ⟨k, v⟩ := member
      obtain ⟨first, others⟩ := List.nodup_cons.mp once
      rcases List.mem_cons.mp among with here | later
      · cases here
        exact if_pos rfl
      · have different : k ≠ key := fun same => first (List.mem_map.mpr ⟨(key, value), later, same.symm⟩)
        rw [get?, if_neg different]
        exact ih others later

def put (key : Text) (value : Json) : Members → Members
  | [] => [(key, value)]
  | (k, v) :: rest => if k = key then (k, value) :: rest else (k, v) :: put key value rest

theorem put_unchanged (key : Text) (value : Json) (members : Members) (present : get? key members = some value) :
    put key value members = members := by
  induction members with
  | nil => cases present
  | cons member rest ih =>
      obtain ⟨k, v⟩ := member
      by_cases same : k = key
      · rw [get?, if_pos same] at present
        cases present
        rw [put, if_pos same]
      · rw [get?, if_neg same] at present
        rw [put, if_neg same, ih present]

theorem get?_put_self (key : Text) (value : Json) (members : Members) :
    get? key (put key value members) = some value := by
  induction members with
  | nil => simp [put, get?]
  | cons member rest ih =>
    obtain ⟨k, v⟩ := member
    by_cases same : k = key <;> simp [put, get?, same, ih]

theorem get?_put_of_ne {key other : Text} (different : other ≠ key) (value : Json)
    (members : Members) : get? other (put key value members) = get? other members := by
  induction members with
  | nil => simp [put, get?, different.symm]
  | cons member rest ih =>
    obtain ⟨k, v⟩ := member
    by_cases same : k = key
    · subst same
      simp [put, get?, different.symm]
    · simp [put, get?, same, ih]

theorem keys_put (key : Text) (value : Json) (members : Members) :
    keys (put key value members) =
      if key ∈ keys members then keys members else keys members ++ [key] := by
  induction members with
  | nil => simp [put, keys]
  | cons member rest ih =>
    obtain ⟨k, v⟩ := member
    by_cases same : k = key
    · simp [put, keys, same]
    · have different : key ≠ k := fun h => same h.symm
      simp only [keys] at ih
      by_cases present : key ∈ List.map Prod.fst rest
      · simp [put, keys, same, ih, present]
      · simp [put, keys, same, ih, present, different]

theorem mem_put (key : Text) (value : Json) (members : Members) (member : Text × Json)
    (among : member ∈ put key value members) : member = (key, value) ∨ member ∈ members := by
  induction members with
  | nil => exact .inl (List.mem_singleton.mp among)
  | cons first rest ih =>
      obtain ⟨k, v⟩ := first
      by_cases same : k = key
      · rw [put, if_pos same, same] at among
        exact (List.mem_cons.mp among).imp_right (List.mem_cons_of_mem _)
      · rw [put, if_neg same] at among
        rcases List.mem_cons.mp among with here | later
        · exact .inr (here ▸ List.mem_cons_self)
        · exact (ih later).imp_right (List.mem_cons_of_mem _)

theorem keys_put_nodup (key : Text) (value : Json) (members : Members) (once : (keys members).Nodup) :
    (keys (put key value members)).Nodup := by
  rw [keys_put]
  split
  · exact once
  · rename_i absent
    exact List.nodup_append.mpr ⟨once, List.pairwise_singleton _ key, fun k present other only =>
      fun same => absent (List.mem_singleton.mp only ▸ same ▸ present)⟩

end Members

namespace Json

def isSet : Json → Bool
  | .null => false
  | .bool b => b
  | .int n => n != 0
  | .float x => !x.isZero
  | .str t => !t.isEmpty
  | .arr items => !items.isEmpty
  | .obj members => !members.isEmpty

def ofString (s : String) : Json := .str (Text.ofString s)

def ofPairs (pairs : List (String × Json)) : Json :=
  .obj (pairs.map fun (key, value) => (Text.ofString key, value))

def texts (ts : List Text) : Json := .arr (ts.map .str)

end Json

end Linkage
