/-!
# Modifiers

A modifier names the memory layout of a buffer's pixels. Two of them are
special: `linear`, which is plain rows, and `invalid`, which says that the
layout is implicit and only the driver knows it. On a wire that carries
32-bit words a modifier travels as two halves, `split` and `join`.
-/

namespace Scanout

/-- The memory layout of a buffer. -/
structure Modifier where
  value : UInt64
  deriving DecidableEq, Repr

namespace Modifier

def linear : Modifier := ⟨0⟩

def invalid : Modifier := ⟨0x00ffffffffffffff⟩

/-- The layouts that have a name. -/
def names : List (UInt64 × String) := [
  (0x0900000000000001, "Allwinner_tiled"),
  (0x0700000000000004, "Broadcom_sand128"),
  (0x0700000000000005, "Broadcom_sand256"),
  (0x0700000000000002, "Broadcom_sand32"),
  (0x0700000000000003, "Broadcom_sand64"),
  (0x0700000000000006, "Broadcom_uif"),
  (0x0700000000000001, "Broadcom_vc4_t_tiled"),
  (0x0400000000000002, "Generic_16_16_tile"),
  (0x00ffffffffffffff, "Invalid"),
  (0x0000000000000000, "Linear"),
  (0x0300000000000013, "Nvidia_16bx2_block_eight_gob"),
  (0x0300000000000012, "Nvidia_16bx2_block_four_gob"),
  (0x0300000000000010, "Nvidia_16bx2_block_one_gob"),
  (0x0300000000000014, "Nvidia_16bx2_block_sixteen_gob"),
  (0x0300000000000015, "Nvidia_16bx2_block_thirtytwo_gob"),
  (0x0300000000000011, "Nvidia_16bx2_block_two_gob"),
  (0x0300000000000001, "Nvidia_tegra_tiled"),
  (0x0500000000000001, "Qcom_compressed"),
  (0x0400000000000001, "Samsung_64_32_tile"),
  (0x0600000000000004, "Vivante_split_super_tiled"),
  (0x0600000000000003, "Vivante_split_tiled"),
  (0x0600000000000002, "Vivante_super_tiled"),
  (0x0600000000000001, "Vivante_tiled"),
  (0x0100000000000001, "I915_x_tiled"),
  (0x0100000000000002, "I915_y_tiled"),
  (0x0100000000000004, "I915_y_tiled_ccs"),
  (0x0100000000000007, "I915_y_tiled_gen12_mc_ccs"),
  (0x0100000000000006, "I915_y_tiled_gen12_rc_ccs")]

def name (m : Modifier) : String :=
  (names.lookup m.value).getD s!"Unrecognized({m.value})"

def listNames (ms : List Modifier) : String :=
  "[" ++ ", ".intercalate (ms.map name) ++ "]"

def split (m : Modifier) : UInt32 × UInt32 :=
  ((m.value >>> 32).toUInt32, m.value.toUInt32)

def join (hi lo : UInt32) : Modifier :=
  ⟨(hi.toUInt64 <<< 32) ||| lo.toUInt64⟩

end Modifier

end Scanout
