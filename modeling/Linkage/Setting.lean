import Linkage.Failure
import Linkage.Json

set_option autoImplicit false

namespace Linkage

namespace Setting

def typeName : Json → String
  | .null => "NoneType"
  | .bool _ => "bool"
  | .int _ => "int"
  | .float _ => "float"
  | .str _ => "str"
  | .arr _ => "list"
  | .obj _ => "dict"

def part (key : String) : Json → Except Failure (Option Json)
  | .obj members => .ok (Members.get? (Text.ofString key) members)
  | value => .error (.noSuchPart (Text.ofString ("'" ++ typeName value ++ "' object has no attribute 'get'")))

def orElse (fallback : Json) : Option Json → Json
  | some value => if value.isSet then value else fallback
  | none => fallback

def section? (key : String) (settings : Json) : Except Failure Json := do
  return orElse (.obj []) (← part key settings)

-- The items of a value: those of a list, the keys of an object, the code points of a text.
def items : Json → Except Failure (List Json)
  | .arr values => .ok values
  | .obj members => .ok (Members.keys members |>.map .str)
  | .str t => .ok (t.map fun p => .str [p])
  | value => .error (.wrongType (Text.ofString ("'" ++ typeName value ++ "' object is not iterable")))

def letters : Json → Except Failure Text
  | .str t => .ok t
  | value => .error (.noSuchPart (Text.ofString ("'" ++ typeName value ++ "' object has no letters")))

def numeral (t : Text) : Except Failure Int :=
  match Numeral.read? .ten t with
  | none => .error (.numeral .ten t)
  | some n =>
    if Numeral.digitCount t ≤ Numeral.maxDigits then .ok n
    else .error (.tooManyDigits (Numeral.digitCount t))

def integer : Json → Except Failure Int
  | .int n => .ok n
  | .bool b => .ok (if b then 1 else 0)
  | .float x =>
    match x.truncate? with
    | some n => .ok n
    | none => .error (.noInteger x.isInfinite)
  | .str t => numeral t
  | value => .error (.wrongType (Text.ofString ("no integer in a " ++ typeName value)))

end Setting

end Linkage
