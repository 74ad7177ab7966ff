import Scanout.Outcome
import Scanout.X11.Request
/-!
# The connection to an X server

What a client asks for is written to its connection and flushed from there, and
both can fail at any time, for reasons that are not the client's. A request that
could not be written is one that the server never sees. After a flush that
failed, the server may see what was written or not.
-/

namespace Scanout.X11

/-- The failure of drawing an identifier when the server has none left. -/
def idsExhausted : Failure :=
  { message := "X11 IDs have been exhausted" }

/-- Why a request whose answer is awaited came to nothing. -/
inductive Refusal where
  /-- The server will not have it. -/
  | rejected (cause : Failure)
  /-- The connection was lost before there was an answer. -/
  | unanswered (cause : Failure)
  deriving DecidableEq, Repr

def Refusal.cause : Refusal → Failure
  | rejected cause | unanswered cause => cause

/-- How a connection takes what is done to it, at a given time. As long as nothing
else is said, all goes well. -/
structure Connection where
  /-- Whether a request can be written. -/
  write : Request → Except Failure Unit := fun _ => .ok ()
  /-- Whether the requests that were just written can be flushed. -/
  flush : List Request → Except Failure Unit := fun _ => .ok ()
  /-- Whether a file can be duplicated to be sent along, by its place among the
  files of the request. -/
  duplicate : Nat → Except Failure Unit := fun _ => .ok ()
  /-- Why there is no identifier, once the client's own have run out. -/
  exhausted : Failure := idsExhausted

namespace Connection

/-- Writes one request after the other, until one cannot be written; with what
was written. -/
def writeAll (connection : Connection) : List Request → Except Failure Unit × List Request
  | [] => (.ok (), [])
  | r :: rest =>
    match connection.write r with
    | .error e => (.error e, [])
    | .ok _ =>
      let (result, written) := connection.writeAll rest
      (result, r :: written)

/-- Writes requests and flushes them; with what was written. -/
def postAll (connection : Connection) (rs : List Request) : Except Failure Unit × List Request :=
  match connection.writeAll rs with
  | (.error e, written) => (.error e, written)
  | (.ok _, written) => (connection.flush rs, written)

/-- Duplicates files one after the other, until one cannot be duplicated. -/
def duplicateAll (connection : Connection) (files : Nat) : Except Failure Unit :=
  (List.range files).forM connection.duplicate

end Connection

end Scanout.X11
