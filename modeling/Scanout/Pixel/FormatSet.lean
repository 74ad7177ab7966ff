import Scanout.Pixel.Format
/-!
# Format sets

The formats a display accepts, grouped by pixel format. Pixel formats come in
the order in which they were first added, and so do the layouts of each of
them; adding a format that is there changes nothing. Two sets are the same if
they hold the same formats, whatever the order.
-/

namespace Scanout

/-- A pixel format with the layouts recorded for it. -/
structure FormatEntry where
  code : Fourcc
  modifiers : List Modifier
  deriving DecidableEq, Repr

namespace FormatEntry

def contains (e : FormatEntry) (m : Modifier) : Bool :=
  e.modifiers.contains m

/-- Whether buffers with an implicit layout are accepted. -/
def supportsImplicit (e : FormatEntry) : Bool :=
  e.contains .invalid

def insert (e : FormatEntry) (m : Modifier) : FormatEntry :=
  if e.contains m then e else { e with modifiers := e.modifiers ++ [m] }

def formats (e : FormatEntry) : List Format :=
  e.modifiers.map fun m => ⟨e.code, m⟩

/-- Same pixel format and same layouts in any order. -/
def sameAs (a b : FormatEntry) : Bool :=
  a.code == b.code && a.modifiers.length == b.modifiers.length
    && a.modifiers.all b.contains

end FormatEntry

/-- A set of formats in order of insertion. -/
structure FormatSet where
  /-- The entries, each with the pixel format it is filed under. -/
  filed : List (Fourcc × FormatEntry) := []
  deriving DecidableEq, Repr

namespace FormatSet

def empty : FormatSet := {}

def entries (s : FormatSet) : List FormatEntry :=
  s.filed.map (·.2)

def get? (s : FormatSet) (code : Fourcc) : Option FormatEntry :=
  (s.filed.find? (·.1 = code)).map (·.2)

def contains (s : FormatSet) (f : Format) : Bool :=
  (s.get? f.code).any (·.contains f.modifier)

/-- Adds a format to the entry filed under its code, or files a new one at the end. -/
def insertEntry (f : Format) : List (Fourcc × FormatEntry) → List (Fourcc × FormatEntry)
  | [] => [(f.code, ⟨f.code, [f.modifier]⟩)]
  | (code, e) :: es =>
    if code = f.code then (code, e.insert f.modifier) :: es else (code, e) :: insertEntry f es

def insert (s : FormatSet) (f : Format) : FormatSet :=
  ⟨insertEntry f s.filed⟩

/-- Adds a format and says whether it was new. -/
def add (s : FormatSet) (f : Format) : Bool × FormatSet :=
  (!s.contains f, s.insert f)

def extend (s : FormatSet) (fs : List Format) : FormatSet :=
  fs.foldl insert s

def ofList (fs : List Format) : FormatSet :=
  empty.extend fs

def toList (s : FormatSet) : List Format :=
  s.entries.flatMap (·.formats)

def size (s : FormatSet) : Nat :=
  s.filed.length

def isEmpty (s : FormatSet) : Bool :=
  s.filed.isEmpty

/-- Same entries under the same pixel formats, in any order. -/
def sameAs (a b : FormatSet) : Bool :=
  a.size == b.size && a.filed.all fun entry => (b.get? entry.1).any entry.2.sameAs

end FormatSet

end Scanout
