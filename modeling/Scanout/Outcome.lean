import Scanout.Fault
/-!
# Outcomes

A call ends in one of three ways: it is done, it failed in a way its caller
is told about, or it broke a contract. A `Failure` is what a device, a
renderer or a display reports: a text, and the texts of the causes behind it.
-/

namespace Scanout

/-- An error reported by the surroundings, with its causes, outermost first. -/
structure Failure where
  message : String
  causes : List String := []
  deriving DecidableEq, Repr

/-- The failure's own text followed by those of its causes. -/
def Failure.chain (f : Failure) : List String :=
  f.message :: f.causes

/-- How a call ended. -/
inductive Outcome (ε α : Type) where
  | done (value : α)
  | failed (error : ε)
  | fault (fault : Fault)
  deriving DecidableEq, Repr

namespace Outcome

variable {ε α β : Type}

/-- Changes the value of a finished call and nothing else. -/
def map (f : α → β) : Outcome ε α → Outcome ε β
  | done a => done (f a)
  | failed e => failed e
  | fault f => fault f

end Outcome

end Scanout
