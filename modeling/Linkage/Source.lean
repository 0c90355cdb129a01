import Linkage.Host

set_option autoImplicit false

namespace Linkage

inductive Source where
  | bytes (content : Bytes)
  | text (content : Text)

namespace Source

def surrogate? (place : Nat) : Text → Option (CodePoint × Nat × Nat)
  | [] => none
  | p :: rest =>
    if Path.isSurrogate p then some (p, place, (rest.takeWhile Path.isSurrogate).length)
    else surrogate? (place + 1) rest

def encoded : Source → Except Failure Bytes
  | .bytes content => .ok content
  | .text content =>
    match surrogate? 0 content with
    | some (point, place, more) => .error (.unencodablePath point place more)
    | none => .ok (Utf8.encode content)

end Source

def Span.textIn (span : Span) (source : Source) : Except Failure Text := do
  return span.text (← source.encoded)

end Linkage
