import Scanout.Fault
import Scanout.Pixel.Fourcc
import Scanout.Pixel.Modifier
/-!
# Formats

A format is a pixel format together with a memory layout. Messages show it in
a long form that contains the fourcc's text, so showing can fail.
-/

namespace Scanout

/-- The text of a fourcc where a message needs one. -/
def Fourcc.describe (f : Fourcc) : Except Fault String :=
  match f.text? with
  | some text => .ok text
  | none => .error .unprintableFourcc

/-- A pixel format in a memory layout. -/
structure Format where
  code : Fourcc
  modifier : Modifier
  deriving DecidableEq, Repr

/-- The long form of a format. -/
def Format.describe (f : Format) : Except Fault String := do
  let code ← f.code.describe
  let modifier := f.modifier.name
  return s!"DrmFormat \x7b code: DrmFourcc({code}), modifier: {modifier} \x7d"

end Scanout
