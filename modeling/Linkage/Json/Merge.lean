import Linkage.Json

set_option autoImplicit false

namespace Linkage

namespace Json

mutual

def laidOver (old : Json) : Json → Json
  | .obj members =>
    match old with
    | .obj base => .obj (overMembers base members)
    | _ => .obj members
  | value => value

def overMembers (base : List (Text × Json)) : List (Text × Json) → List (Text × Json)
  | [] => base
  | (key, value) :: rest =>
    let fresh := match Members.get? key base with
      | some old => laidOver old value
      | none => value
    overMembers (Members.put key fresh base) rest

end

end Json

namespace Members

def merge (base layer : Members) : Members := Json.overMembers base layer

theorem merge_nil (base : Members) : merge base [] = base := by
  simp [merge, Json.overMembers]

end Members

end Linkage
