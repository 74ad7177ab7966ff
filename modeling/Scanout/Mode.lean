/-!
# Output modes

The size of an output in pixels and its refresh rate; a rate of zero is an
unknown one. Displays propose sizes as signed numbers, and a proposal without
a positive width and height is no size at all.
-/

namespace Scanout

structure Mode where
  width : Int32
  height : Int32
  refresh : Int32
  deriving DecidableEq, Repr

namespace Mode

/-- The mode of an output nobody asked a size for. -/
def standard : Mode := ⟨1280, 720, 0⟩

/-- The mode a proposed size stands for. -/
def ofConfigure? (width height : Int32) : Option Mode :=
  if 0 < width ∧ 0 < height then some ⟨width, height, 0⟩ else none

/-- The mode of a size given in unsigned 16-bit words. -/
def ofSize (width height : UInt16) : Mode :=
  ⟨width.toUInt32.toInt32, height.toUInt32.toInt32, 0⟩

end Mode

end Scanout
