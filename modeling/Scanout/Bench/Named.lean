/-!
# Things by name

A script refers to what it made by names of its own. The latest thing given a
name is the one the name stands for.
-/

namespace Scanout.Bench

/-- Things by name, the latest first. -/
abbrev Named (α : Type) := List (String × α)

namespace Named

variable {α : Type}

def get? (l : Named α) (name : String) : Option α :=
  l.lookup name

def contains (l : Named α) (name : String) : Bool :=
  (l.get? name).isSome

def erase (l : Named α) (name : String) : Named α :=
  l.filter (·.1 ≠ name)

/-- Lets a name stand for something, in place of whatever it stood for. -/
def put (l : Named α) (name : String) (a : α) : Named α :=
  (name, a) :: l.erase name

end Named

end Scanout.Bench
