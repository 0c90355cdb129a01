import Linkage.Json
import Linkage.Text.Quoted

set_option autoImplicit false

namespace Linkage

namespace Json

def unitEscape (n : Nat) : Text := [.scalar '\\', .scalar 'u'] ++ Text.hexDigits 4 n

def escapedPoint (p : CodePoint) : Text :=
  let n := p.val
  if n == 34 || n == 92 then [.scalar '\\', p]
  else if n == 10 then [.scalar '\\', .scalar 'n']
  else if n == 13 then [.scalar '\\', .scalar 'r']
  else if n == 9 then [.scalar '\\', .scalar 't']
  else if n == 12 then [.scalar '\\', .scalar 'f']
  else if n == 8 then [.scalar '\\', .scalar 'b']
  else if 32 ≤ n && n < 127 then [p]
  else if n < 0x10000 then unitEscape n
  else unitEscape (0xD800 + (n - 0x10000) / 1024) ++ unitEscape (0xDC00 + (n - 0x10000) % 1024)

def quotedString (t : Text) : Text :=
  .scalar Text.doubleQuote :: t.flatMap escapedPoint ++ [.scalar Text.doubleQuote]

inductive Layout where
  | compact
  | indented

def Layout.newline (layout : Layout) (depth : Nat) : Text :=
  match layout with
  | .compact => []
  | .indented => .scalar '\n' :: List.replicate (2 * depth) (.scalar ' ')

def Layout.comma (layout : Layout) (depth : Nat) : Text :=
  match layout with
  | .compact => [.scalar ',', .scalar ' ']
  | .indented => .scalar ',' :: layout.newline depth

mutual

def write (layout : Layout) (depth : Nat) : Json → Text
  | .null => Text.ofString "null"
  | .bool b => Text.ofString (if b then "true" else "false")
  | .int n => Text.ofInt n
  | .float x => x.text
  | .str t => quotedString t
  | .arr [] => Text.ofString "[]"
  | .arr (item :: items) =>
    .scalar '[' :: layout.newline (depth + 1) ++ write layout (depth + 1) item ++
      writeItems layout (depth + 1) items ++ layout.newline depth ++ [.scalar ']']
  | .obj [] => Text.ofString "\x7b\x7d"
  | .obj ((key, value) :: members) =>
    .scalar (Char.ofNat 123) :: layout.newline (depth + 1) ++ quotedString key ++
      Text.ofString ": " ++ write layout (depth + 1) value ++
      writeMembers layout (depth + 1) members ++ layout.newline depth ++
      [.scalar (Char.ofNat 125)]

def writeItems (layout : Layout) (depth : Nat) : List Json → Text
  | [] => []
  | item :: items => layout.comma depth ++ write layout depth item ++ writeItems layout depth items

def writeMembers (layout : Layout) (depth : Nat) : List (Text × Json) → Text
  | [] => []
  | (key, value) :: members =>
    layout.comma depth ++ quotedString key ++ Text.ofString ": " ++ write layout depth value ++
      writeMembers layout depth members

end

def text (layout : Layout) (value : Json) : Text := write layout 0 value

end Json

end Linkage
