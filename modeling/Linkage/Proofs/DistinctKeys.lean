import Linkage.Json.Reader
import Linkage.Settings

set_option autoImplicit false

namespace Linkage

namespace Json

mutual

-- Each object on the way down from a value, from key to key, holds each of its keys once.
def Distinct : Json → Prop
  | .obj members => (Members.keys members).Nodup ∧ DistinctIn members
  | _ => True

def DistinctIn : List (Text × Json) → Prop
  | [] => True
  | (_, value) :: rest => Distinct value ∧ DistinctIn rest

end

theorem distinct_in_iff (members : Members) : DistinctIn members ↔ ∀ member ∈ members, Distinct member.2 := by
  induction members with
  | nil => simp [DistinctIn]
  | cons member rest ih => simp [DistinctIn, ih]

theorem distinct_member (members : Members) (distinct : (Json.obj members).Distinct) (member : Text × Json)
    (among : member ∈ members) : member.2.Distinct :=
  (distinct_in_iff members).mp distinct.2 member among

end Json

namespace Members

theorem put_distinct (key : Text) (value : Json) (members : Members) (fresh : value.Distinct)
    (distinct : (Json.obj members).Distinct) : (Json.obj (put key value members)).Distinct := by
  refine ⟨keys_put_nodup key value members distinct.1, (Json.distinct_in_iff _).mpr fun member among => ?_⟩
  rcases mem_put key value members member among with put | old
  · exact put ▸ fresh
  · exact Json.distinct_member members distinct member old

end Members

namespace Json

theorem read_word_distinct (t rest : Text) (value : Json) (found : readWord? t = some (value, rest)) :
    value.Distinct := by
  obtain ⟨⟨word, meant⟩, listed, stripped⟩ := List.exists_of_findSome?_eq_some found
  obtain ⟨_, _, same⟩ := Option.map_eq_some_iff.mp stripped
  cases same
  have plain : ∀ pair ∈ words, Distinct pair.2 := by simp [words, Distinct]
  exact plain (word, value) listed

theorem read_number_distinct (negative : Bool) (t rest : Text) (value : Json)
    (done : readNumber negative t = .ok (value, rest)) : value.Distinct := by
  rw [readNumber] at done
  split at done
  · cases done
  · dsimp only at done
    -- Whichever parts it has, the number is an integer or a float.
    repeat' split at done
    all_goals cases done
    all_goals trivial

-- The members of an object are put one after the other into those that were read before it.
mutual

theorem read_value_distinct (fuel : Nat) (t rest : Text) (value : Json)
    (done : readValue fuel t = .ok (value, rest)) : value.Distinct := by
  cases fuel with
  | zero => cases done
  | succ fuel =>
      rw [readValue.eq_def] at done
      dsimp only at done
      split at done
      · rename_i word after found
        cases done
        exact read_word_distinct t rest value found
      · split at done
        · cases done
        · -- A quote, a brace, a bracket or a number; only a brace opens an object.
          split at done
          · obtain ⟨_, _, built⟩ := Failure.bind_ok _ _ _ done
            cases built
            trivial
          · split at done
            · split at done
              · cases done
              · split at done
                · cases done
                  exact ⟨List.nodup_nil, trivial⟩
                · obtain ⟨⟨members, after⟩, inside, built⟩ := Failure.bind_ok _ _ _ done
                  cases built
                  exact read_members_distinct fuel [] _ _ members ⟨List.nodup_nil, trivial⟩ inside
            · split at done
              · split at done
                · cases done
                · split at done
                  · cases done
                    trivial
                  · obtain ⟨_, _, built⟩ := Failure.bind_ok _ _ _ done
                    cases built
                    trivial
              · split at done
                · exact read_number_distinct true _ rest value done
                · exact read_number_distinct false _ rest value done

theorem read_members_distinct (fuel : Nat) (before : Members) (t rest : Text) (members : Members)
    (distinct : (Json.obj before).Distinct) (done : readMembers fuel before t = .ok (members, rest)) :
    (Json.obj members).Distinct := by
  cases fuel with
  | zero => cases done
  | succ fuel =>
      cases t with
      | nil => cases done
      | cons quote t =>
          rw [readMembers] at done
          split at done
          · obtain ⟨⟨key, after⟩, _, next⟩ := Failure.bind_ok _ _ _ done
            dsimp only at next
            split at next
            · cases next
            · split at next
              · obtain ⟨⟨value, remaining⟩, inside, last⟩ := Failure.bind_ok _ _ _ next
                have added : (Json.obj (Members.put key value before)).Distinct :=
                  Members.put_distinct key value before (read_value_distinct fuel _ remaining value inside) distinct
                dsimp only at last
                split at last
                · cases last
                · split at last
                  · cases last
                    exact added
                  · split at last
                    · exact read_members_distinct fuel _ _ rest members added last
                    · cases last
              · cases next
          · cases done

end

theorem read_distinct (t : Text) (value : Json) (done : read t = .ok value) : value.Distinct := by
  obtain ⟨⟨found, after⟩, inside, last⟩ := Failure.bind_ok _ _ _ done
  dsimp only at last
  split at last
  · cases last
    exact read_value_distinct _ _ after value inside
  · cases last

end Json

namespace Settings

theorem of_text_distinct (t : Text) (members : Members) (done : ofText t = .ok (some members)) :
    (Json.obj members).Distinct := by
  rw [ofText] at done
  split at done
  · rename_i object read
    cases done
    exact Json.read_distinct t (.obj members) read
  all_goals cases done

theorem of_file_distinct (host : Host) (file : Path) (members : Members)
    (done : ofFile host file = .ok (some members)) : (Json.obj members).Distinct := by
  obtain ⟨isFile, _, rest⟩ := Failure.bind_ok _ _ _ done
  split at rest
  · obtain ⟨content, _, rest⟩ := Failure.bind_ok _ _ _ rest
    obtain ⟨text, _, last⟩ := Failure.bind_ok _ _ _ rest
    exact of_text_distinct text members last
  · cases rest

end Settings

end Linkage
