import Linkage.Text

set_option autoImplicit false

namespace Linkage

abbrev Bytes := List UInt8

namespace Utf8

-- The bytes of one code point. A surrogate takes the three-byte pattern of its number.
def encodePoint : CodePoint → Bytes
  | .scalar c => String.utf8EncodeChar c
  | .surrogate offset =>
    [0xED, UInt8.ofNat (0xA0 + offset.val / 64), UInt8.ofNat (0x80 + offset.val % 64)]

def encode (t : Text) : Bytes := t.flatMap encodePoint

inductive Defect where
  | start
  | continuation
  | truncated
deriving DecidableEq

inductive Segment where
  | point (c : Char) (bytes : Bytes)
  | broken (defect : Defect) (bytes : Bytes)
deriving DecidableEq

def Segment.bytes : Segment → Bytes
  | .point _ bytes => bytes
  | .broken _ bytes => bytes

def isTail (b : UInt8) : Bool := 0x80 ≤ b && b ≤ 0xBF

def follows3 (lead second : UInt8) : Bool :=
  isTail second && !(lead == 0xE0 && second < 0xA0) && !(lead == 0xED && 0xA0 ≤ second)

def follows4 (lead second : UInt8) : Bool :=
  isTail second && !(lead == 0xF0 && second < 0x90) && !(lead == 0xF4 && 0x90 ≤ second)

def point2 (a b : UInt8) : Char :=
  Char.ofNat ((a.toNat - 0xC0) * 64 + (b.toNat - 0x80))

def point3 (a b c : UInt8) : Char :=
  Char.ofNat ((a.toNat - 0xE0) * 4096 + (b.toNat - 0x80) * 64 + (c.toNat - 0x80))

def point4 (a b c d : UInt8) : Char :=
  Char.ofNat ((a.toNat - 0xF0) * 262144 + (b.toNat - 0x80) * 4096 + (c.toNat - 0x80) * 64 +
    (d.toNat - 0x80))

-- Cuts bytes into characters and the longest runs that begin one without completing it.
def segments : Bytes → List Segment
  | [] => []
  | a :: rest =>
    if a < 0x80 then .point (Char.ofNat a.toNat) [a] :: segments rest
    else if 0xC2 ≤ a && a ≤ 0xDF then
      match rest with
      | [] => [.broken .truncated [a]]
      | b :: rest₁ =>
        if isTail b then .point (point2 a b) [a, b] :: segments rest₁
        else .broken .continuation [a] :: segments (b :: rest₁)
    else if 0xE0 ≤ a && a ≤ 0xEF then
      match rest with
      | [] => [.broken .truncated [a]]
      | b :: rest₁ =>
        if follows3 a b then
          match rest₁ with
          | [] => [.broken .truncated [a, b]]
          | c :: rest₂ =>
            if isTail c then .point (point3 a b c) [a, b, c] :: segments rest₂
            else .broken .continuation [a, b] :: segments (c :: rest₂)
        else .broken .continuation [a] :: segments (b :: rest₁)
    else if 0xF0 ≤ a && a ≤ 0xF4 then
      match rest with
      | [] => [.broken .truncated [a]]
      | b :: rest₁ =>
        if follows4 a b then
          match rest₁ with
          | [] => [.broken .truncated [a, b]]
          | c :: rest₂ =>
            if isTail c then
              match rest₂ with
              | [] => [.broken .truncated [a, b, c]]
              | d :: rest₃ =>
                if isTail d then .point (point4 a b c d) [a, b, c, d] :: segments rest₃
                else .broken .continuation [a, b, c] :: segments (d :: rest₃)
            else .broken .continuation [a, b] :: segments (c :: rest₂)
        else .broken .continuation [a] :: segments (b :: rest₁)
    else .broken .start [a] :: segments rest

theorem flatMap_bytes_segments (bytes : Bytes) : (segments bytes).flatMap Segment.bytes = bytes := by
  fun_induction segments bytes <;> simp_all [Segment.bytes]

def Segment.lossy : Segment → CodePoint
  | .point c _ => .scalar c
  | .broken _ _ => .replacement

def decodeLossy (bytes : Bytes) : Text := (segments bytes).map Segment.lossy

structure Fault where
  offset : Nat
  bytes : Bytes
  defect : Defect
deriving DecidableEq

def strictFrom (offset : Nat) : List Segment → Except Fault Text
  | [] => .ok []
  | .point c bytes :: rest => do
    let text ← strictFrom (offset + bytes.length) rest
    return .scalar c :: text
  | .broken defect bytes :: _ => .error ⟨offset, bytes, defect⟩

def decode (bytes : Bytes) : Except Fault Text := strictFrom 0 (segments bytes)

def hexDigits (b : UInt8) : Text :=
  let digit (n : Nat) : CodePoint := .scalar (Nat.digitChar n)
  [digit (b.toNat / 16), digit (b.toNat % 16)]

def Defect.message : Defect → String
  | .start => "invalid start byte"
  | .continuation => "invalid continuation byte"
  | .truncated => "unexpected end of data"

def Fault.message (fault : Fault) : Text :=
  let subject : Text := match fault.bytes with
    | [b] => Text.ofString "byte 0x" ++ hexDigits b ++ Text.ofString " in position " ++
        Text.ofNat fault.offset
    | bytes => Text.ofString "bytes in position " ++ Text.ofNat fault.offset ++ Text.ofString "-" ++
        Text.ofNat (fault.offset + bytes.length - 1)
  Text.ofString "'utf-8' codec can't decode " ++ subject ++ Text.ofString ": " ++
    Text.ofString fault.defect.message

end Utf8

end Linkage
