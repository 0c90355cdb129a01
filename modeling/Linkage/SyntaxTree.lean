import Linkage.Span

set_option autoImplicit false

namespace Linkage

-- A node of a syntax tree. Punctuation and keywords are not named; a field is the role of a node in
-- its parent.
structure Node where
  kind : String
  start : Int
  stop : Int
  named : Bool
  field : Option String
  hasError : Bool
  children : List Node
deriving Inhabited

namespace Node

def span (n : Node) : Span := ⟨n.start, n.stop⟩

def text (n : Node) (source : Bytes) : Text :=
  Utf8.decodeLossy (Bytes.slice source n.start n.stop)

theorem text_span (n : Node) (source : Bytes) : n.text source = n.span.text source := rfl

def namedChildren (n : Node) : List Node := n.children.filter (·.named)

def childOfKind? (n : Node) (kind : String) : Option Node := n.children.find? (·.kind == kind)

def childInField? (n : Node) (field : String) : Option Node :=
  n.children.find? (·.field == some field)

def errorKind : String := "ERROR"

def moduleKinds : List String := ["import", "export", "import_statement", "export_statement"]

mutual

-- Whether an error node, or an error node right below it, and so on, has a child that belongs to an
-- import or export.
def mentionsModule : Node → Bool
  | ⟨_, _, _, _, _, _, children⟩ => anyMentionsModule children

def anyMentionsModule : List Node → Bool
  | [] => false
  | child :: rest =>
    moduleKinds.contains child.kind || (child.kind == errorKind && mentionsModule child) ||
      anyMentionsModule rest

end

end Node

end Linkage
