import Scanout.DataSlot
/-!
# Accesses to one slot

A script of accesses to a slot that is empty at first. Each answer comes with
whether the slot is empty then; an access that could not be read changes
nothing and has no reply.
-/

namespace Scanout.Bench

/-- Carries out accesses in order on a slot. -/
def runSlotFrom (s : DataSlot) :
    List (Option DataSlot.Action) → List (Option DataSlot.Reply × Bool)
  | [] => []
  | none :: rest => (none, s.isEmpty) :: runSlotFrom s rest
  | some a :: rest =>
    let (reply, s) := s.perform a
    (some reply, s.isEmpty) :: runSlotFrom s rest

def runSlot (actions : List (Option DataSlot.Action)) : List (Option DataSlot.Reply × Bool) :=
  runSlotFrom .empty actions

end Scanout.Bench
