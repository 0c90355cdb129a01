import Linkage.Text.Utf8

set_option autoImplicit false

namespace Linkage

structure Span where
  start : Int
  stop : Int
deriving DecidableEq

namespace Bytes

def place (length : Nat) (offset : Int) : Nat :=
  if offset < 0 then (length + offset).toNat else min offset.toNat length

def slice (bytes : Bytes) (start stop : Int) : Bytes :=
  (bytes.take (place bytes.length stop)).drop (place bytes.length start)

theorem slice_append_middle (a b c : Bytes) :
    slice (a ++ b ++ c) a.length (a.length + b.length) = b := by
  have start_place : place (a ++ b ++ c).length (a.length : Int) = a.length := by
    have nonneg : ¬ ((a.length : Int) < 0) := by omega
    simp only [place, nonneg, if_false, List.length_append, Int.toNat_natCast]
    omega
  have stop_place :
      place (a ++ b ++ c).length ((a.length : Int) + b.length) = a.length + b.length := by
    have nonneg : ¬ ((a.length : Int) + b.length < 0) := by omega
    simp only [place, nonneg, if_false, List.length_append]
    omega
  unfold slice
  rw [start_place, stop_place]
  have whole : (a ++ b).length = a.length + b.length := List.length_append
  rw [← whole, List.take_left, List.drop_left]

end Bytes

namespace Span

def text (span : Span) (source : Bytes) : Text :=
  Utf8.decodeLossy (Bytes.slice source span.start span.stop)

end Span

end Linkage
