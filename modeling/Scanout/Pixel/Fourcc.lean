/-!
# Fourcc codes

A pixel format is named by four bytes packed into a word, the first byte
lowest. Only the codes of the table are formats; `ofCode?` is the only way
from a number to a `Fourcc`, so every other module may rely on that.

One entry, the big-endian mark, is a flag bit rather than four letters. It is
a known code and yet has no text, which is why `text?` is partial.
-/

namespace Scanout

namespace Fourcc

/-- Packs four letters into a code, the first one lowest. -/
def word (a b c d : Char) : UInt32 :=
  a.val ||| (b.val <<< 8) ||| (c.val <<< 16) ||| (d.val <<< 24)

/-- The flag that turns a format into its big-endian variant. -/
def bigEndianMark : UInt32 := 0x80000000

/-- Every code that names a format. -/
def knownCodes : List UInt32 := [
  word 'A' 'B' '1' '5', word 'A' 'B' '4' 'H', word 'A' 'B' '3' '0', word 'A' 'B' '1' '2',
  word 'A' 'B' '2' '4', word 'A' 'R' '1' '5', word 'A' 'R' '4' 'H', word 'A' 'R' '3' '0',
  word 'A' 'R' '1' '2', word 'A' 'R' '2' '4', word 'A' 'B' '1' '0', word 'A' 'Y' 'U' 'V',
  word 'B' 'G' 'R' '8', word 'B' 'G' '1' '6', word 'B' '5' 'A' '8', word 'B' 'G' '2' '4',
  word 'B' '8' 'A' '8', word 'B' 'A' '3' '0', word 'B' 'A' '1' '2', word 'B' 'A' '1' '5',
  word 'B' 'A' '2' '4', word 'B' 'X' '3' '0', word 'B' 'X' '1' '2', word 'B' 'X' '1' '5',
  word 'B' 'X' '2' '4', word 'B' 'X' 'A' '8', word 'C' '8' ' ' ' ', word 'G' 'R' '3' '2',
  word 'G' 'R' '8' '8', word 'N' 'V' '1' '2', word 'N' 'V' '1' '5', word 'N' 'V' '1' '6',
  word 'N' 'V' '2' '1', word 'N' 'V' '2' '4', word 'N' 'V' '4' '2', word 'N' 'V' '6' '1',
  word 'P' '0' '1' '0', word 'P' '0' '1' '2', word 'P' '0' '1' '6', word 'P' '2' '1' '0',
  word 'Q' '4' '0' '1', word 'Q' '4' '1' '0', word 'R' '1' '6' ' ', word 'R' '8' ' ' ' ',
  word 'R' 'G' '3' '2', word 'R' 'G' '8' '8', word 'R' 'G' 'B' '8', word 'R' 'G' '1' '6',
  word 'R' '5' 'A' '8', word 'R' 'G' '2' '4', word 'R' '8' 'A' '8', word 'R' 'A' '3' '0',
  word 'R' 'A' '1' '2', word 'R' 'A' '1' '5', word 'R' 'A' '2' '4', word 'R' 'X' '3' '0',
  word 'R' 'X' '1' '2', word 'R' 'X' '1' '5', word 'R' 'X' '2' '4', word 'R' 'X' 'A' '8',
  word 'U' 'Y' 'V' 'Y', word 'V' 'U' '3' '0', word 'V' 'U' '2' '4', word 'V' 'Y' 'U' 'Y',
  word 'X' '0' 'L' '0', word 'X' '0' 'L' '2', word 'X' 'B' '1' '5', word 'X' 'B' '4' 'H',
  word 'X' 'B' '3' '0', word 'X' 'B' '1' '2', word 'X' 'B' '2' '4', word 'X' 'B' 'A' '8',
  word 'X' 'R' '1' '5', word 'X' 'R' '4' 'H', word 'X' 'R' '3' '0', word 'X' 'R' '1' '2',
  word 'X' 'R' '2' '4', word 'X' 'R' 'A' '8', word 'X' 'V' '3' '6', word 'X' 'V' '4' '8',
  word 'X' 'V' '3' '0', word 'X' 'Y' 'U' 'V', word 'Y' '0' 'L' '0', word 'Y' '0' 'L' '2',
  word 'Y' '2' '1' '0', word 'Y' '2' '1' '2', word 'Y' '2' '1' '6', word 'Y' '4' '1' '0',
  word 'Y' '4' '1' '2', word 'Y' '4' '1' '6', word 'Y' 'U' 'V' '9', word 'Y' 'U' '1' '1',
  word 'Y' 'U' '1' '2', word 'Y' 'U' '1' '0', word 'Y' 'U' '0' '8', word 'Y' 'U' '1' '6',
  word 'Y' 'U' '2' '4', word 'Y' 'U' 'Y' 'V', word 'Y' 'V' 'U' '9', word 'Y' 'V' '1' '1',
  word 'Y' 'V' '1' '2', word 'Y' 'V' '1' '6', word 'Y' 'V' '2' '4', word 'Y' 'V' 'Y' 'U',
  bigEndianMark]

end Fourcc

/-- A code that names a pixel format. -/
structure Fourcc where
  code : UInt32
  known : code ∈ Fourcc.knownCodes
  deriving DecidableEq, Repr

namespace Fourcc

def ofCode? (code : UInt32) : Option Fourcc :=
  if known : code ∈ knownCodes then some ⟨code, known⟩ else none

theorem ofCode?_code (f : Fourcc) : ofCode? f.code = some f := by
  simp [ofCode?, f.known]

theorem code_of_ofCode? {code : UInt32} {f : Fourcc} (h : ofCode? code = some f) :
    f.code = code := by
  unfold ofCode? at h
  split at h
  · cases h
    rfl
  · cases h

def bytes (f : Fourcc) : List Nat :=
  [0, 8, 16, 24].map fun shift => (f.code.toNat >>> shift) % 256

/-- The four bytes read as text; `none` unless all of them are ASCII. -/
def text? (f : Fourcc) : Option String :=
  if f.bytes.all (· < 128) then some (String.ofList (f.bytes.map Char.ofNat)) else none

def xrgb8888 : Fourcc := ⟨word 'X' 'R' '2' '4', by decide⟩

/-- How the pixels of a format are laid out in memory. -/
structure PixelLayout where
  hasAlpha : Bool
  bitsPerPixel : Nat
  depth : Nat
  deriving DecidableEq, Repr

/-- The layouts of the formats a display can be handed as they are. -/
def layouts : List (UInt32 × PixelLayout) := [
  -- 16-bit colour
  (word 'R' 'G' '1' '6', ⟨false, 16, 16⟩), (word 'B' 'G' '1' '6', ⟨false, 16, 16⟩),
  -- 8 bits a channel
  (word 'A' 'R' '2' '4', ⟨true, 32, 32⟩), (word 'X' 'R' '2' '4', ⟨false, 32, 24⟩),
  (word 'A' 'B' '2' '4', ⟨true, 32, 32⟩), (word 'X' 'B' '2' '4', ⟨false, 32, 24⟩),
  (word 'R' 'A' '2' '4', ⟨true, 32, 32⟩), (word 'R' 'X' '2' '4', ⟨false, 32, 24⟩),
  (word 'B' 'A' '2' '4', ⟨true, 32, 32⟩), (word 'B' 'X' '2' '4', ⟨false, 32, 24⟩),
  -- 10 bits a channel
  (word 'A' 'R' '3' '0', ⟨true, 32, 32⟩), (word 'X' 'R' '3' '0', ⟨false, 32, 30⟩),
  (word 'A' 'B' '3' '0', ⟨true, 32, 32⟩), (word 'X' 'B' '3' '0', ⟨false, 32, 30⟩)]

/-- The layout of a format, if it is one of those in the table. -/
def layout? (f : Fourcc) : Option PixelLayout :=
  layouts.lookup f.code

/-- Whether a format has an alpha channel; formats without a known layout have none. -/
def hasAlpha (f : Fourcc) : Bool :=
  f.layout?.any (·.hasAlpha)

def bitsPerPixel? (f : Fourcc) : Option Nat :=
  f.layout?.map (·.bitsPerPixel)

def depth? (f : Fourcc) : Option Nat :=
  f.layout?.map (·.depth)

end Fourcc

end Scanout
