/-!
# Device files and descriptors

Planes and render nodes are open files. All that matters of one here is which
device file it refers to, and of a descriptor which open file it is: clones
of a descriptor are equal, two openings of one file are not.
-/

namespace Scanout

/-- The device files a descriptor can refer to. -/
inductive DeviceFile where
  | null
  | zero
  | full
  deriving DecidableEq, Repr

def DeviceFile.name : DeviceFile → String
  | null => "null"
  | zero => "zero"
  | full => "full"

def DeviceFile.ofName? (name : String) : Option DeviceFile :=
  [null, zero, full].find? (·.name = name)

/-- A shared descriptor of an open file. -/
structure DeviceFd where
  number : Nat
  file : DeviceFile
  deriving Repr

/-- Descriptors are equal when they are the same open file. -/
def DeviceFd.sameAs (a b : DeviceFd) : Bool :=
  a.number == b.number

/-- Where a descriptor comes from: a newly opened file or an earlier descriptor. -/
inductive DeviceFd.Origin where
  | opened (file : DeviceFile)
  | cloned (index : Nat)
  deriving DecidableEq, Repr

/-- Makes descriptors in order; `none` if a clone names no earlier one. -/
def DeviceFd.makeAll? (origins : List DeviceFd.Origin) : Option (List DeviceFd) :=
  origins.foldlM
    (fun fds origin =>
      match origin with
      | .opened file => some (fds ++ [⟨fds.length, file⟩])
      | .cloned index => fds[index]?.map fun fd => fds ++ [fd])
    []

end Scanout
