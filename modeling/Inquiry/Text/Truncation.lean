set_option autoImplicit false

namespace Inquiry.Text

def isBoundary (text : String) (n : Nat) : Bool :=
  if inside : String.Pos.Raw.mk n < text.rawEndPos then
    decide (text.getUTF8Byte ⟨n⟩ inside).IsUTF8FirstByte
  else n = text.utf8ByteSize

-- The search ends at byte 0, where every text has a boundary.
def lastBoundary (text : String) : Nat → Nat
  | 0 => 0
  | n + 1 => if isBoundary text (n + 1) then n + 1 else lastBoundary text n

theorem is_boundary_iff (text : String) (n : Nat) :
    isBoundary text n = true ↔ (String.Pos.Raw.mk n).IsValid text := by
  rw [String.Pos.Raw.isValid_iff_isUTF8FirstByte, isBoundary]
  by_cases inside : String.Pos.Raw.mk n < text.rawEndPos
  · have notEnd : String.Pos.Raw.mk n ≠ text.rawEndPos := by
      intro same
      rw [same] at inside
      exact Nat.lt_irrefl _ inside
    rw [dif_pos inside, decide_eq_true_iff]
    exact ⟨fun first => .inr ⟨inside, first⟩, fun valid => (valid.resolve_left notEnd).2⟩
  · rw [dif_neg inside, decide_eq_true_iff, String.Pos.Raw.ext_iff, String.byteIdx_rawEndPos]
    exact ⟨.inl, fun valid => valid.resolve_right fun ⟨within, _⟩ => inside within⟩

theorem last_boundary_valid (text : String) (n : Nat) :
    (String.Pos.Raw.mk (lastBoundary text n)).IsValid text := by
  induction n with
  | zero => exact String.Pos.Raw.isValid_zero
  | succ n ih =>
      rw [lastBoundary]
      split
      case isTrue boundary => exact (is_boundary_iff text (n + 1)).mp boundary
      case isFalse => exact ih

def cutAt (max : Nat) (text : String) : text.Pos :=
  ⟨⟨lastBoundary text max⟩, last_boundary_valid text max⟩

def truncate (max : Nat) (text : String) : String :=
  if text.utf8ByteSize ≤ max then text else (text.sliceTo (cutAt max text)).copy

end Inquiry.Text
