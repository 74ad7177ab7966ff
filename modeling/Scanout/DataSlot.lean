/-!
# Data slots

A slot holds at most one value of any kind. Reading, taking and changing name
the kind they expect and find nothing if the slot holds another.
-/

namespace Scanout

/-- What a slot can hold. -/
inductive SlotValue where
  | word (value : UInt32)
  | integer (value : Int64)
  | text (value : String)
  /-- What a scripted display keeps for an image it imported. -/
  | token (number : Nat)
  /-- The handle of an image imported into an EGL context. -/
  | eglImage (handle : Nat)
  /-- The pixmap an X server knows an image by. -/
  | pixmap (id : Nat)
  /-- The buffer object a Wayland compositor knows an image by. -/
  | remoteBuffer (buffer : Nat)
  deriving DecidableEq, Repr

/-- The kinds of slot values. -/
inductive SlotKind where
  | word
  | integer
  | text
  | token
  | eglImage
  | pixmap
  | remoteBuffer
  deriving DecidableEq, Repr

namespace SlotValue

def kind : SlotValue → SlotKind
  | word _ => .word
  | integer _ => .integer
  | text _ => .text
  | token _ => .token
  | eglImage _ => .eglImage
  | pixmap _ => .pixmap
  | remoteBuffer _ => .remoteBuffer

/-- The value changed in place: numbers grow by one and wrap, texts get a mark. -/
def bump : SlotValue → SlotValue
  | word v => word (v + 1)
  | integer v => integer (v + 1)
  | text v => text (v ++ "!")
  | v => v

end SlotValue

/-- A place for at most one value. -/
structure DataSlot where
  value? : Option SlotValue := none
  deriving DecidableEq, Repr

namespace DataSlot

def empty : DataSlot := {}

def isEmpty (s : DataSlot) : Bool :=
  s.value?.isNone

def set (_ : DataSlot) (v : SlotValue) : DataSlot :=
  ⟨some v⟩

/-- The value, if it is of the expected kind. -/
def get? (s : DataSlot) (k : SlotKind) : Option SlotValue :=
  s.value?.filter (·.kind = k)

/-- Takes the value out if it is of the expected kind. -/
def take (s : DataSlot) (k : SlotKind) : Option SlotValue × DataSlot :=
  match s.get? k with
  | some v => (some v, empty)
  | none => (none, s)

/-- Changes the value in place if it is of the expected kind, and shows the new one. -/
def update (s : DataSlot) (k : SlotKind) : Option SlotValue × DataSlot :=
  match s.get? k with
  | some v => (some v.bump, s.set v.bump)
  | none => (none, s)

/-- What a dump of the slot shows. -/
def dump (s : DataSlot) : String :=
  let occupied := if s.isEmpty then "false" else "true"
  s!"DataSlot \x7b occupied: {occupied} \x7d"

inductive Action where
  | set (value : SlotValue)
  | get (kind : SlotKind)
  | take (kind : SlotKind)
  | update (kind : SlotKind)
  | clear
  | isEmpty
  | dump
  deriving DecidableEq, Repr

inductive Reply where
  | nothing
  | value (v : SlotValue)
  | flag (b : Bool)
  | text (t : String)
  deriving DecidableEq, Repr

/-- The reply that shows a value if there is one. -/
def Reply.ofOption : Option SlotValue → Reply
  | some v => .value v
  | none => .nothing

def perform (s : DataSlot) : Action → Reply × DataSlot
  | .set v => (.nothing, s.set v)
  | .get k => (.ofOption (s.get? k), s)
  | .take k => (.ofOption (s.take k).1, (s.take k).2)
  | .update k => (.ofOption (s.update k).1, (s.update k).2)
  | .clear => (.nothing, empty)
  | .isEmpty => (.flag s.isEmpty, s)
  | .dump => (.text s.dump, s)

end DataSlot

end Scanout
