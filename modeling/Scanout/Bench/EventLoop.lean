/-!
# The event loop a display is watched by

A display's events reach the program only through a loop that watches its
connection. The display can be taken out of the loop for a while, is taken out
for good when its connection is lost, and can be dropped together with the
loop.
-/

namespace Scanout.Bench

/-- Whether a loop watches a display. -/
inductive Watch where
  | active
  /-- Taken out by the program, which may put it in again. -/
  | paused
  | removed
  /-- Dropped together with the loop. -/
  | dropped
  deriving DecidableEq

inductive WatchAction where
  | disable
  | enable
  | update
  deriving DecidableEq

/-- Carries out an action and says whether it was one for this watch. Without a
loop there is nothing to act on. -/
def Watch.perform? : Watch → WatchAction → Option (Bool × Watch)
  | dropped, _ => none
  | active, .disable => some (true, paused)
  | active, .update => some (true, active)
  | paused, .enable => some (true, active)
  | w, _ => some (false, w)

end Scanout.Bench
